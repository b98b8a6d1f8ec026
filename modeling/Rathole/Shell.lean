import Mathlib.Data.List.Chain
import Mathlib.Data.List.TakeWhile
import Rathole.Transduce

set_option autoImplicit false

/- How a POSIX shell reads a script of assignments and functions, and the words of an argument that
is evaluated. What would run a command of its own, or cannot be read, has no meaning here. -/
namespace Shell

open Transduce (run)

/-- What a character of a word is to the shell. -/
inductive Quote
  | bare | single | double | escaped
  /-- It is from an expansion outside of quotes. -/
  | expanded
  deriving DecidableEq

inductive Piece
  /-- A quote, which stays until everything else is expanded. -/
  | mark
  | char (c : Char) (quote : Quote)
  deriving DecidableEq

def quoted (quote : Quote) (text : List Char) : List Piece := text.map (.char · quote)

/-- A word without its quotes. -/
def text : List Piece → List Char
  | [] => []
  | .mark :: rest => text rest
  | .char c _ :: rest => c :: text rest

inductive Token
  | word (pieces : List Piece)
  | operator (c : Char)
  | newline
  deriving DecidableEq

inductive Mode
  | bare | single | double | comment
  | escape (inside : Bool)
  deriving DecidableEq

structure State where
  mode : Mode
  word : Option (List Piece)
  deriving DecidableEq

def State.start : State := ⟨.bare, none⟩

def State.add (s : State) (mode : Mode) (pieces : List Piece) : State :=
  ⟨mode, some (s.word.getD [] ++ pieces)⟩

/-- The word that ends here. -/
def State.ended (s : State) : List Token := s.word.toList.map .word

def isOperator (c : Char) : Bool := c ∈ ['|', '&', ';', '<', '>', '(', ')']

def backtick : Char := '\x60'

def bareStep (s : State) (c : Char) : State × List Token :=
  if c = '\'' then (s.add .single [.mark], [])
  else if c = '"' then (s.add .double [.mark], [])
  else if c = '\\' then (⟨.escape false, s.word⟩, [])
  else if c = '#' ∧ s.word = none then (⟨.comment, none⟩, [])
  else if c = ' ' ∨ c = '\t' then (.start, s.ended)
  else if c = '\n' then (.start, s.ended ++ [.newline])
  else if isOperator c then (.start, s.ended ++ [.operator c])
  else (s.add .bare [.char c .bare], [])

/-- One character of a text. A text has no NUL. -/
def step (s : State) (c : Char) : Option (State × List Token) :=
  if c = '\x00' then none
  else
    match s.mode with
    | .bare => some (bareStep s c)
    | .comment => if c = '\n' then some (.start, [.newline]) else some (s, [])
    | .single =>
      if c = '\'' then some (s.add .bare [.mark], [])
      else some (s.add .single [.char c .single], [])
    | .double =>
      if c = '"' then some (s.add .bare [.mark], [])
      else if c = '\\' then some (⟨.escape true, s.word⟩, [])
      else some (s.add .double [.char c .double], [])
    | .escape inside =>
      let mode := if inside then .double else .bare
      if c = '\n' then some (⟨mode, s.word⟩, [])
      else if inside = true ∧ c ∉ ['$', backtick, '"', '\\'] then
        some (s.add mode [.char '\\' .double, .char c .double], [])
      else some (s.add mode [.char c .escaped], [])

/-- The tokens of a text, with every quote closed. -/
def tokens (text : List Char) : Option (List Token) := do
  let read ← run step .start text
  if read.1.mode = .bare ∨ read.1.mode = .comment then some (read.2 ++ read.1.ended) else none

def isNameStart (c : Char) : Bool := c.isAlpha || c = '_'

def isNameChar (c : Char) : Bool := c.isAlphanum || c = '_'

/-- What the shell knows that a text does not say. -/
structure Host where
  /-- The value of a parameter, or of what stands in braces. -/
  parameter : List Char → List Char
  home : List Char → Option (List Char)
  /-- The names that a pattern stands for. -/
  paths : List Piece → List (List Char)
  real : ∀ pattern, ∀ name ∈ paths pattern, name ≠ [] ∧ '\x00' ∉ name

/-- The characters behind a dollar sign that are quoted as it is. -/
def following (quote : Quote) : List Piece → List Char
  | .char c q :: rest => if q = quote then c :: following quote rest else []
  | _ => []

/-- A dollar sign in front of this character is an expansion. -/
def expands (c : Char) : Bool :=
  isNameStart c || c.isDigit || c ∈ ['{', '(', '@', '*', '#', '?', '-', '$', '!']

/-- The characters that a value has where a dollar sign of this kind stands. -/
def Quote.value : Quote → Quote
  | .bare => .expanded
  | quote => quote

/-- What a dollar sign stands for, and how many characters behind it that takes. -/
def reference (host : Host) (quote : Quote) (rest : List Piece) : Option (List Piece × Nat) :=
  match following quote rest with
  | [] => some ([.char '$' quote], 0)
  | c :: cs =>
    if c = '(' then none
    else if c = '{' then
      let name := cs.takeWhile (· ≠ '}')
      if '}' ∈ cs then some (quoted quote.value (host.parameter name), name.length + 2) else none
    else if isNameStart c then
      let name := (c :: cs).takeWhile isNameChar
      some (quoted quote.value (host.parameter name), name.length)
    else if expands c then some (quoted quote.value (host.parameter [c]), 1)
    else some ([.char '$' quote], 0)

/-- The user that a tilde names: what follows it up to a slash, or a colon of an assignment. -/
def login (assignment : Bool) : List Piece → List Char
  | .char c .bare :: rest =>
    if c = '/' ∨ assignment = true ∧ c = ':' then [] else c :: login assignment rest
  | _ => []

/-- A tilde and its user end where a slash, a colon of an assignment or the end of the word is. -/
def loginEnds (assignment : Bool) (rest : List Piece) : Bool :=
  match rest.drop (login assignment rest).length with
  | [] => true
  | next :: _ => next = .char '/' .bare || assignment && next = .char ':' .bare

/-- The directory that a tilde stands for, and how many characters behind it that takes. -/
def homeOf (host : Host) (assignment : Bool) (rest : List Piece) : Option (List Char × Nat) :=
  if loginEnds assignment rest then
    (host.home (login assignment rest)).map fun home => (home, (login assignment rest).length)
  else none

/-- The expansions of a word, after characters that one has taken. A tilde counts where a word or a
part of an assignment begins. -/
def expand (host : Host) (assignment : Bool) (begins : Bool) (taken : Nat) :
    List Piece → Option (List Piece)
  | [] => some []
  | .mark :: rest =>
    if taken ≠ 0 then expand host assignment begins (taken - 1) rest
    else (.mark :: ·) <$> expand host assignment false 0 rest
  | .char c quote :: rest =>
    if taken ≠ 0 then expand host assignment begins (taken - 1) rest
    else if quote = .bare ∧ c = '~' ∧ begins = true ∧ (homeOf host assignment rest).isSome then do
      let home ← homeOf host assignment rest
      (quoted .single home.1 ++ ·) <$> expand host assignment false home.2 rest
    else if (quote = .bare ∨ quote = .double) ∧ c = backtick then none
    else if (quote = .bare ∨ quote = .double) ∧ c = '$' then do
      let value ← reference host quote rest
      (value.1 ++ ·) <$> expand host assignment false value.2 rest
    else
      (.char c quote :: ·) <$>
        expand host assignment (assignment && quote = .bare && c = ':') 0 rest

/-- The fields of a word: what an expansion outside of quotes gave is split at blanks. -/
def fields (field : Option (List Piece)) : List Piece → List (List Piece)
  | [] => field.toList
  | .char c .expanded :: rest =>
    if c = ' ' ∨ c = '\t' ∨ c = '\n' then field.toList ++ fields none rest
    else fields (some (field.getD [] ++ [.char c .expanded])) rest
  | piece :: rest => fields (some (field.getD [] ++ [piece])) rest

/-- The characters of a field that can make it a pattern. Slashes count in quotes too. -/
def shape : List Piece → List (Option Char)
  | [] => []
  | .mark :: rest => shape rest
  | .char c quote :: rest =>
    (if quote = .bare ∨ quote = .expanded ∨ c = '/' then some c else none) :: shape rest

/-- A bracket that is closed in its part of the path. -/
def isBracket (rest : List (Option Char)) : Bool :=
  let members := if rest.head? = some (some '!') ∨ rest.head? = some (some '^') then rest.tail
    else rest
  some ']' ∈ (members.takeWhile (· ≠ some '/')).drop 1

def isPattern : List (Option Char) → Bool
  | [] => false
  | c :: rest => c = some '*' || c = some '?' || (c = some '[' && isBracket rest) || isPattern rest

/-- A pattern without a file stands for itself. -/
def names (host : Host) (field : List Piece) : List (List Char) :=
  if isPattern (shape field) = true ∧ host.paths field ≠ [] then host.paths field
  else [text field]

def allNames (host : Host) (pieces : List Piece) : List (List Char) :=
  (fields none pieces).flatMap (names host)

/-- The words that a word of a command stands for. -/
def words (host : Host) (word : List Piece) : Option (List (List Char)) :=
  (expand host false true 0 word).map (allNames host)

/-- A token of a simple command is a word. -/
def Token.words (host : Host) : Token → Option (List (List Char))
  | .word pieces => Shell.words host pieces
  | _ => none

/-- The words of a text that is read as the end of a simple command. -/
def evalText (host : Host) (text : List Char) : Option (List (List Char)) := do
  let read ← tokens text
  let found ← read.mapM (Token.words host)
  some found.flatten

def spaced : List (List Char) → List Char
  | [] => []
  | [name] => name
  | name :: rest => name ++ ' ' :: spaced rest

/-- The words that `eval` finds in a value outside of quotes: it sees the names of the fields. -/
def evalWords (host : Host) (value : List Char) : Option (List (List Char)) :=
  evalText host (spaced (allNames host (quoted .expanded value)))

/-- A name and what is assigned to it. -/
def assigned (word : List Piece) : Option (List Char × List Piece) :=
  let name := (following .bare word).takeWhile isNameChar
  if name.head?.any isNameStart ∧ (word.drop name.length).head? = some (.char '=' .bare) then
    some (name, word.drop (name.length + 1))
  else none

def isName (word : List Piece) : Bool :=
  word = quoted .bare (text word) && (text word).head?.any isNameStart &&
    (text word).all isNameChar

/-- Where in a script the reader is. -/
inductive Place
  | start
  /-- Behind an assignment or a function. -/
  | done
  | named | opened | closed
  /-- In the body of a function, and whether a line begins there. -/
  | body (line : Bool)
  deriving DecidableEq

/-- One token of a script of assignments and functions. Anything else would be a command. -/
def statement (place : Place) (token : Token) : Option (Place × List (List Char × List Piece)) :=
  match place, token with
  | .start, .newline => some (.start, [])
  | .start, .word w =>
    match assigned w with
    | some value => some (.done, [value])
    | none => if isName w then some (.named, []) else none
  | .done, .newline => some (.start, [])
  | .named, .operator c => if c = '(' then some (.opened, []) else none
  | .opened, .operator c => if c = ')' then some (.closed, []) else none
  | .closed, .word w => if w = [.char '{' .bare] then some (.body false, []) else none
  | .body _, .newline => some (.body true, [])
  | .body line, .word w =>
    if line = true ∧ w = [.char '}' .bare] then some (.done, []) else some (.body false, [])
  | .body _, .operator _ => some (.body false, [])
  | _, _ => none

def statements (script : List Char) : Option (List (List Char × List Piece)) := do
  let read ← tokens script
  let found ← run statement .start read
  if found.1 = .start ∨ found.1 = .done then some found.2 else none

/-- The values that a script gives its variables, when that is all it does. -/
def evaluate (host : Host) (script : List Char) : Option (List (List Char × List Char)) := do
  let found ← statements script
  found.mapM fun s => (expand host true true 0 s.2).map fun value => (s.1, text value)

section Pieces

variable {a b : List Piece} {quote : Quote} {cs ds : List Char}

@[simp] theorem text_append (a b : List Piece) : text (a ++ b) = text a ++ text b := by
  induction a with
  | nil => rfl
  | cons piece a ih =>
    cases piece with
    | mark => exact ih
    | char c quote => exact congrArg (c :: ·) ih

@[simp] theorem text_quoted (quote : Quote) (cs : List Char) : text (quoted quote cs) = cs := by
  induction cs with
  | nil => rfl
  | cons c cs ih => exact congrArg (c :: ·) ih

@[simp] theorem quoted_append (quote : Quote) (cs ds : List Char) :
    quoted quote (cs ++ ds) = quoted quote cs ++ quoted quote ds := List.map_append

theorem quoted_cons (quote : Quote) (c : Char) (cs : List Char) :
    quoted quote (c :: cs) = .char c quote :: quoted quote cs := rfl

end Pieces

section Reading

variable {w : List Piece} {cs : List Char} {c : Char}

/-- A character that stands for itself in a word outside of quotes. -/
def isPlain (c : Char) : Bool :=
  c ∉ ['\x00', '\'', '"', '\\', ' ', '\t', '\n'] && !isOperator c

theorem bareStep_plain (plain : isPlain c = true) (s : State) (inside : c = '#' → s.word ≠ none) :
    bareStep s c = (s.add .bare [.char c .bare], []) := by
  simp only [isPlain, Bool.and_eq_true, Bool.not_eq_true', decide_eq_true_eq, List.mem_cons,
    List.not_mem_nil, or_false, not_or] at plain
  obtain ⟨⟨-, single, double, escape, space, tab, newline⟩, operator⟩ := plain
  have hash : ¬ (c = '#' ∧ s.word = none) := fun both => inside both.1 both.2
  simp [bareStep, single, double, escape, space, tab, newline, operator, hash]

theorem run_plain (plain : ∀ c ∈ cs, isPlain c = true) :
    run step ⟨.bare, some w⟩ cs = some (⟨.bare, some (w ++ quoted .bare cs)⟩, []) := by
  induction cs generalizing w with
  | nil => simp [quoted]
  | cons c cs ih =>
    have here := plain c List.mem_cons_self
    have one : step ⟨.bare, some w⟩ c = some (⟨.bare, some (w ++ [.char c .bare])⟩, []) := by
      have known : c ≠ '\x00' := by
        rintro rfl
        exact absurd here (by decide)
      rw [step, if_neg known]
      simp only
      rw [bareStep_plain here _ (fun _ => Option.some_ne_none _)]
      rfl
    rw [Transduce.run_cons one, ih fun c member => plain c (List.mem_cons_of_mem _ member)]
    simp [quoted]

theorem run_double (plain : ∀ c ∈ cs, c ≠ '\x00' ∧ c ≠ '"' ∧ c ≠ '\\') :
    run step ⟨.double, some w⟩ cs = some (⟨.double, some (w ++ quoted .double cs)⟩, []) := by
  induction cs generalizing w with
  | nil => simp [quoted]
  | cons c cs ih =>
    obtain ⟨known, quote, escape⟩ := plain c List.mem_cons_self
    have one : step ⟨.double, some w⟩ c = some (⟨.double, some (w ++ [.char c .double])⟩, []) := by
      simp [step, known, quote, escape, State.add]
    rw [Transduce.run_cons one, ih fun c member => plain c (List.mem_cons_of_mem _ member)]
    simp [quoted]

theorem run_nul (known : '\x00' ∈ cs) (s : State) : run step s cs = none := by
  induction cs generalizing s with
  | nil => cases known
  | cons c cs ih =>
    rcases List.mem_cons.mp known with rfl | below
    · exact Transduce.run_refused rfl
    · cases one : step s c with
      | none => exact Transduce.run_refused one
      | some next =>
        rw [Transduce.run_cons one, ih below]
        rfl

theorem run_single (plain : ∀ c ∈ cs, c ≠ '\x00' ∧ c ≠ '\'') :
    run step ⟨.single, some w⟩ cs = some (⟨.single, some (w ++ quoted .single cs)⟩, []) := by
  induction cs generalizing w with
  | nil => simp [quoted]
  | cons c cs ih =>
    obtain ⟨known, quote⟩ := plain c List.mem_cons_self
    have one : step ⟨.single, some w⟩ c = some (⟨.single, some (w ++ [.char c .single])⟩, []) := by
      simp [step, known, quote, State.add]
    rw [Transduce.run_cons one, ih fun c member => plain c (List.mem_cons_of_mem _ member)]
    simp [quoted]

theorem run_word (plain : ∀ c ∈ cs, isPlain c = true) (nonempty : cs ≠ [])
    (comment : cs.head? ≠ some '#') :
    run step .start cs = some (⟨.bare, some (quoted .bare cs)⟩, []) := by
  cases cs with
  | nil => exact absurd rfl nonempty
  | cons c cs =>
    have here := plain c List.mem_cons_self
    have other : c ≠ '#' := fun same => comment (congrArg some same)
    have known : c ≠ '\x00' := by
      rintro rfl
      exact absurd here (by decide)
    have one : step .start c = some (⟨.bare, some [.char c .bare]⟩, []) := by
      rw [step, if_neg known]
      exact congrArg some (bareStep_plain here .start fun same => absurd same other)
    rw [Transduce.run_cons one, run_plain fun c member => plain c (List.mem_cons_of_mem _ member)]
    rfl

theorem known_of_operator {c : Char} (operator : isOperator c = true) : c ≠ '\x00' := by
  rintro rfl
  exact absurd operator (by decide)

theorem bareStep_operator {c : Char} (operator : isOperator c = true) (s : State) :
    bareStep s c = (.start, s.ended ++ [.operator c]) := by
  have member := of_decide_eq_true operator
  simp only [List.mem_cons, List.not_mem_nil, or_false] at member
  rcases member with rfl | rfl | rfl | rfl | rfl | rfl | rfl <;> rfl

end Reading

section Expansion

variable {host : Host} {assignment begins : Bool} {quote : Quote} {cs : List Char}
  {tail : List Piece}

/-- Quotes in which dollar signs count. -/
def Quote.active (quote : Quote) : Prop := quote = .bare ∨ quote = .double

/-- No dollar sign or backtick of the text is an expansion. -/
structure Inert (cs : List Char) : Prop where
  command : backtick ∉ cs
  dollar : cs.IsChain fun a b => a = '$' → expands b = false

/-- No tilde of the text begins a path. -/
structure Homeless (assignment begins : Bool) (cs : List Char) : Prop where
  head : begins = true → cs.head? ≠ some '~'
  colon : assignment = true → cs.IsChain fun a b => a = ':' → b ≠ '~'

/-- What a word ends with, when nothing in front of it can take any of it. -/
structure Closes (quote : Quote) (tail : List Piece) : Prop where
  name : ∀ c, (following quote tail).head? = some c → expands c = false ∧ isNameChar c = false
  brace : '}' ∉ following quote tail
  same : ∀ host assignment begins, expand host assignment begins 0 tail = some tail

theorem closes_nil : Closes quote [] := ⟨by simp [following], by simp [following], fun _ _ _ => rfl⟩

theorem closes_mark : Closes quote [.mark] :=
  ⟨by simp [following], by simp [following], fun _ _ _ => rfl⟩

theorem closes_single : Closes .double [.char '\'' .double, .mark] := by
  refine ⟨fun c head => ?_, by decide, fun _ _ _ => ?_⟩
  · cases head
    decide
  · simp [expand, backtick]

theorem following_quoted (quote : Quote) (cs : List Char) (tail : List Piece) :
    following quote (quoted quote cs ++ tail) = cs ++ following quote tail := by
  induction cs with
  | nil => rfl
  | cons c cs ih => simp [quoted_cons, following, ih]

theorem expand_single (closes : Closes .single tail) :
    expand host assignment begins 0 (quoted .single cs ++ tail) =
      some (quoted .single cs ++ tail) := by
  induction cs generalizing begins with
  | nil => exact closes.same _ _ _
  | cons c cs ih => simp [quoted_cons, expand, ih]

/-- A dollar sign that expands nothing. -/
theorem reference_literal (closes : Closes quote tail)
    (inert : ∀ c, cs.head? = some c → expands c = false) :
    reference host quote (quoted quote cs ++ tail) = some ([.char '$' quote], 0) := by
  have first : ∀ c, (cs ++ following quote tail).head? = some c → expands c = false := by
    intro c head
    cases cs with
    | nil => exact (closes.name c head).1
    | cons d cs => exact inert c head
  rw [reference, following_quoted]
  cases whole : cs ++ following quote tail with
  | nil => rfl
  | cons c rest =>
    have plain := first c (by rw [whole]; rfl)
    simp only [expands, Bool.or_eq_false_iff, decide_eq_false_iff_not, List.mem_cons,
      List.not_mem_nil, or_false, not_or] at plain
    simp [expands, plain]

theorem expand_inert (begins : Bool) (active : quote.active) (closes : Closes quote tail)
    (inert : Inert cs) (homeless : quote = .bare → Homeless assignment begins cs) :
    expand host assignment begins 0 (quoted quote cs ++ tail) = some (quoted quote cs ++ tail) := by
  induction cs generalizing begins with
  | nil => exact closes.same _ _ _
  | cons c cs ih =>
    have command : c ≠ backtick ∧ backtick ∉ cs := by
      have both := inert.command
      rw [List.mem_cons, not_or] at both
      exact ⟨Ne.symm both.1, both.2⟩
    have below : Inert cs := ⟨command.2, inert.dollar.tail⟩
    have tilde : ¬ (quote = .bare ∧ c = '~' ∧ begins = true ∧
        (homeOf host assignment (quoted quote cs ++ tail)).isSome = true) := by
      rintro ⟨bare, rfl, starts, -⟩
      exact (homeless bare).head starts rfl
    rw [quoted_cons, List.cons_append, expand, if_neg (by simp), if_neg tilde,
      if_neg (fun both => command.1 both.2)]
    by_cases sign : c = '$'
    · have literal : reference host quote (quoted quote cs ++ tail) =
          some ([.char '$' quote], 0) := by
        refine reference_literal closes fun d head => ?_
        cases cs with
        | nil => cases head
        | cons e cs =>
          cases head
          exact (List.isChain_cons_cons.mp inert.dollar).1 sign
      have after := ih false below fun bare =>
        ⟨by simp, fun assigns => ((homeless bare).colon assigns).tail⟩
      rw [if_pos ⟨active, sign⟩, literal]
      simp only [Option.bind_eq_bind, Option.bind_some]
      rw [after, sign]
      rfl
    · have after := ih (assignment && decide (quote = .bare) && decide (c = ':'))
        below fun bare => ⟨fun starts => ?_, fun assigns => ((homeless bare).colon assigns).tail⟩
      · rw [if_neg (fun both => sign both.2), after]
        rfl
      · simp only [Bool.and_eq_true, decide_eq_true_eq] at starts
        cases cs with
        | nil => simp
        | cons d cs =>
          have apart := (List.isChain_cons_cons.mp ((homeless bare).colon starts.1.1)).1 starts.2
          simpa using apart

/-- What nothing is expanded in does not change what is behind it. -/
theorem expand_literal (literal : ∀ c ∈ cs, c ≠ '$' ∧ c ≠ backtick) (ps : List Piece) :
    expand host assignment false 0 (quoted .double cs ++ ps) =
      (quoted .double cs ++ ·) <$> expand host assignment false 0 ps := by
  induction cs with
  | nil => exact (id_map (expand host assignment false 0 ps)).symm
  | cons c cs ih =>
    obtain ⟨dollar, command⟩ := literal c List.mem_cons_self
    have below := ih fun c member => literal c (List.mem_cons_of_mem _ member)
    rw [quoted_cons, List.cons_append, expand, if_neg (by simp), if_neg (by simp),
      if_neg (fun both => command both.2), if_neg (fun both => dollar both.2)]
    have apart : (assignment && decide (Quote.double = .bare) && decide (c = ':')) = false := by
      simp
    rw [apart, below]
    cases expand host assignment false 0 ps <;> rfl

theorem expand_taken (host : Host) (assignment begins : Bool) (taken : Nat) (ps : List Piece) :
    expand host assignment begins taken ps = expand host assignment begins 0 (ps.drop taken) := by
  induction ps generalizing taken with
  | nil => simp [expand]
  | cons p ps ih =>
    cases taken with
    | zero => rfl
    | succ taken => cases p <;> simpa [expand] using ih taken

/-- A host whose parameters and home directories are empty, and in which every pattern stands for
one odd name. -/
def Host.odd : Host where
  parameter := fun _ => []
  home := fun _ => some []
  paths := fun _ => [[';', '\'', ';']]
  real := fun _ name member => by
    rw [List.mem_singleton] at member
    subst member
    exact ⟨by decide, by decide⟩

theorem login_length (assignment : Bool) (cs : List Char) :
    (login assignment (quoted .bare cs)).length ≤ cs.length := by
  induction cs with
  | nil => exact Nat.le_refl 0
  | cons c cs ih =>
    rw [quoted_cons, login]
    split
    · exact Nat.zero_le _
    · simpa using ih

theorem loginEnds_quoted (assignment : Bool) (cs : List Char) :
    loginEnds assignment (quoted .bare cs) = true := by
  induction cs with
  | nil => rfl
  | cons c cs ih =>
    by_cases ends : c = '/' ∨ assignment = true ∧ c = ':'
    · rw [quoted_cons, loginEnds, login, if_pos ends]
      rcases ends with rfl | ⟨assigns, rfl⟩
      · rfl
      · rw [assigns]
        rfl
    · have longer : login assignment (quoted .bare (c :: cs)) =
          c :: login assignment (quoted .bare cs) := if_neg ends
      unfold loginEnds at ih ⊢
      rw [longer]
      exact ih

theorem takeWhile_lt {c : Char} (member : c ∈ cs) : (cs.takeWhile (· ≠ c)).length < cs.length := by
  have shorter := (List.takeWhile_prefix (l := cs) (· ≠ c)).length_le
  refine Nat.lt_of_le_of_ne shorter fun same => ?_
  have whole := (List.takeWhile_prefix (l := cs) (· ≠ c)).eq_of_length same
  exact absurd rfl (of_decide_eq_true (List.takeWhile_eq_self_iff.mp whole c member))

theorem takeWhile_name (cs : List Char) {rest : List Char}
    (ends : ∀ c, rest.head? = some c → isNameChar c = false) :
    ((cs ++ rest).takeWhile isNameChar).length ≤ cs.length := by
  induction cs with
  | nil =>
    cases rest with
    | nil => exact Nat.le_refl 0
    | cons c rest =>
      rw [List.nil_append, List.takeWhile_cons_of_neg (by simp [ends c rfl])]
  | cons c cs ih =>
    rw [List.cons_append, List.takeWhile_cons]
    split
    · simpa using ih
    · exact Nat.zero_le _

theorem isNameChar_of_start {c : Char} (start : isNameStart c = true) : isNameChar c = true := by
  simp only [isNameStart, isNameChar, Char.isAlphanum, Bool.or_eq_true] at start ⊢
  rcases start with letter | underscore
  · exact .inl (.inl letter)
  · exact .inr underscore

/-- An expansion that is odd gives nothing, and takes some of what follows. -/
theorem reference_odd (value : List Piece) (taken : Nat) (closes : Closes quote tail)
    (known : reference .odd quote (quoted quote cs ++ tail) = some (value, taken)) :
    (value = [.char '$' quote] ∧ taken = 0 ∧ ∀ c, cs.head? = some c → expands c = false) ∨
      value = [] ∧ taken ≤ cs.length := by
  cases cs with
  | nil =>
    have literal : reference .odd quote (quoted quote [] ++ tail) = _ :=
      reference_literal closes (by simp)
    rw [literal] at known
    cases known
    exact .inl ⟨rfl, rfl, by simp⟩
  | cons c cs =>
    rw [reference, following_quoted, List.cons_append] at known
    simp only at known
    split at known
    · cases known
    · split at known
      · split at known
        · next closed =>
          cases known
          refine .inr ⟨rfl, ?_⟩
          have inside : '}' ∈ cs := (List.mem_append.mp closed).resolve_right closes.brace
          have same : (cs ++ following quote tail).takeWhile (· ≠ '}') =
              cs.takeWhile (· ≠ '}') := by
            rw [List.takeWhile_append, if_neg (Nat.ne_of_lt (takeWhile_lt inside))]
          have shorter := takeWhile_lt inside
          rw [same, List.length_cons]
          omega
        · cases known
      · split at known
        · next start =>
          cases known
          refine .inr ⟨rfl, ?_⟩
          rw [List.takeWhile_cons_of_pos (isNameChar_of_start start)]
          have short := takeWhile_name cs fun d head => (closes.name d head).2
          simp only [List.length_cons]
          omega
        · split at known
          · cases known
            exact .inr ⟨rfl, by simp⟩
          · next plain =>
            cases known
            refine .inl ⟨rfl, rfl, fun d head => ?_⟩
            cases head
            simpa using plain

/-- A home that is given is empty, and takes no more than a login name. -/
theorem homeOf_odd {rest : List Piece} {home : List Char × Nat}
    (found : homeOf .odd assignment rest = some home) :
    home.1 = [] ∧ home.2 = (login assignment rest).length := by
  unfold homeOf at found
  split at found
  · cases found
    exact ⟨rfl, rfl⟩
  · cases found

theorem Inert.cons {c : Char} (inert : Inert cs) (command : c ≠ backtick)
    (dollar : ∀ d, cs.head? = some d → c = '$' → expands d = false) : Inert (c :: cs) := by
  refine ⟨?_, List.isChain_cons.mpr ⟨fun d head => dollar d head, inert.dollar⟩⟩
  rw [List.mem_cons, not_or]
  exact ⟨Ne.symm command, inert.command⟩

theorem Homeless.cons {c : Char} {begins next : Bool} (homeless : Homeless assignment next cs)
    (head : begins = true → c ≠ '~')
    (colon : assignment = true → c = ':' → next = true) : Homeless assignment begins (c :: cs) := by
  refine ⟨fun starts first => head starts (Option.some.inj first), fun assigns => ?_⟩
  refine List.isChain_cons.mpr ⟨fun d there same => ?_, homeless.colon assigns⟩
  have bare := homeless.head (colon assigns same)
  rw [there] at bare
  exact fun tilde => bare (congrArg some tilde)

/-- Where expansions give nothing, a text that keeps its length has none. -/
theorem expand_odd (active : quote.active) (closes : Closes quote tail)
    (bare : quote = .bare → tail = []) (begins : Bool) {expanded : List Piece}
    (known : expand .odd assignment begins 0 (quoted quote cs ++ tail) = some expanded) :
    ∃ front, expanded = front ++ tail ∧ (text front).Sublist cs ∧
      ((text front).length = cs.length → front = quoted quote cs ∧ Inert cs ∧
        (quote = .bare → Homeless assignment begins cs)) := by
  induction size : cs.length using Nat.strong_induction_on generalizing cs begins expanded with
  | h n ih =>
    -- what an expansion leaves is a shorter text
    have skipped : ∀ (k : Nat) (cs' : List Char) (expanded : List Piece), cs'.length < n →
        k ≤ cs'.length → expand .odd assignment false k (quoted quote cs' ++ tail) = some expanded →
        ∃ front, expanded = front ++ tail ∧ (text front).Sublist cs' := by
      intro k cs' expanded smaller taken known
      have dropped : (quoted quote cs' ++ tail).drop k = quoted quote (cs'.drop k) ++ tail := by
        rw [List.drop_append_of_le_length (by simpa [quoted] using taken), quoted, quoted,
          List.map_drop]
      rw [expand_taken, dropped] at known
      have shorter : (cs'.drop k).length ≤ cs'.length := by
        rw [List.length_drop]
        omega
      obtain ⟨front, same, less, -⟩ := ih _ (by omega) false known rfl
      exact ⟨front, same, less.trans (List.drop_sublist k cs')⟩
    cases cs with
    | nil =>
      cases (closes.same _ _ _).symm.trans known
      exact ⟨[], rfl, List.nil_sublist _, fun _ => ⟨rfl, ⟨by simp, .nil⟩, fun _ =>
        ⟨by simp, fun _ => .nil⟩⟩⟩
    | cons c cs =>
      rw [List.length_cons] at size
      rw [quoted_cons, List.cons_append, expand, if_neg (by simp)] at known
      split at known
      · next tilde =>
        rw [Option.bind_eq_bind, Option.bind_eq_some_iff] at known
        obtain ⟨home, found, known⟩ := known
        rw [Option.map_eq_map, Option.map_eq_some_iff] at known
        obtain ⟨rest, rests, rfl⟩ := known
        rw [bare tilde.1, List.append_nil, tilde.1] at found
        obtain ⟨empty, taken⟩ := homeOf_odd found
        obtain ⟨front, same, less⟩ :=
          skipped home.2 cs rest (by omega) (taken ▸ login_length assignment cs) rests
        have bound := less.length_le
        have gone : quoted .single home.1 ++ rest = front ++ tail := by
          rw [empty, same]
          rfl
        exact ⟨front, gone, less.cons _, fun length => by omega⟩
      · next tilde =>
        split at known
        · cases known
        · next command =>
          have apart : c ≠ backtick := fun same => command ⟨active, same⟩
          split at known
          · next sign =>
            rw [Option.bind_eq_bind, Option.bind_eq_some_iff] at known
            obtain ⟨value, found, known⟩ := known
            rw [Option.map_eq_map, Option.map_eq_some_iff] at known
            obtain ⟨rest, rests, rfl⟩ := known
            rcases reference_odd value.1 value.2 closes found with
              ⟨literal, none, plain⟩ | ⟨empty, taken⟩
            · rw [none] at rests
              obtain ⟨front, same, less, whole⟩ := ih _ (by omega) false rests rfl
              refine ⟨.char '$' quote :: front, by rw [literal, same]; rfl, ?_, fun length => ?_⟩
              · rw [text, sign.2]
                exact less.cons_cons _
              rw [text, List.length_cons] at length
              obtain ⟨rfl, inert, homeless⟩ := whole (by omega)
              rw [sign.2]
              exact ⟨rfl, inert.cons (by decide) fun d head _ => plain d head,
                fun bare => (homeless bare).cons (fun _ => by decide) fun _ => by decide⟩
            · obtain ⟨front, same, less⟩ := skipped value.2 cs rest (by omega) taken rests
              have bound := less.length_le
              exact ⟨front, by rw [empty, same]; rfl, less.cons _, fun length => by omega⟩
          · next unsigned =>
            rw [Option.map_eq_map, Option.map_eq_some_iff] at known
            obtain ⟨rest, rests, rfl⟩ := known
            obtain ⟨front, same, less, whole⟩ := ih _ (by omega) _ rests rfl
            refine ⟨.char c quote :: front, by rw [same]; rfl, ?_, fun length => ?_⟩
            · rw [text]
              exact less.cons_cons _
            rw [text, List.length_cons] at length
            obtain ⟨rfl, inert, homeless⟩ := whole (by omega)
            refine ⟨rfl, inert.cons apart fun d head sign => absurd ⟨active, sign⟩ unsigned,
              fun plain => (homeless plain).cons (fun starts here => ?_) fun assigns colon => ?_⟩
            · refine tilde ⟨plain, here, starts, ?_⟩
              rw [bare plain, List.append_nil, plain, homeOf, loginEnds_quoted]
              rfl
            · simp [assigns, plain, colon]

end Expansion

section Fields

variable {host : Host} {cs : List Char} {quote : Quote} {ps w : List Piece}

theorem shape_quoted (live : quote = .bare ∨ quote = .expanded) :
    shape (quoted quote cs) = cs.map some := by
  induction cs with
  | nil => rfl
  | cons c cs ih =>
    rw [quoted_cons, shape, ih, if_pos (by rcases live with h | h <;> simp [h])]
    rfl

theorem names_plain {field : List Piece} (plain : isPattern (shape field) = false) :
    names host field = [text field] := by
  rw [names, if_neg (by simp [plain])]

theorem names_odd {field : List Piece} (pattern : isPattern (shape field) = true) :
    names .odd field = [[';', '\'', ';']] := by
  rw [names, if_pos ⟨pattern, by simp [Host.odd]⟩]
  rfl

theorem fields_other {p : Piece} (field : Option (List Piece))
    (other : ∀ c, p ≠ .char c .expanded) :
    fields field (p :: ps) = fields (some (field.getD [] ++ [p])) ps := by
  cases p with
  | mark => rfl
  | char c q =>
    cases q with
    | expanded => exact absurd rfl (other c)
    | _ => rfl

/-- Without expansions a word is one field. -/
theorem fields_whole (whole : ∀ p ∈ ps, ∀ c, p ≠ .char c .expanded) :
    fields (some w) ps = [w ++ ps] := by
  induction ps generalizing w with
  | nil => simp [fields]
  | cons p ps ih =>
    have below := fun q member => whole q (List.mem_cons_of_mem _ member)
    rw [fields_other _ (whole p List.mem_cons_self), ih below]
    simp

theorem fields_whole_none {p : Piece} (whole : ∀ q ∈ p :: ps, ∀ c, q ≠ .char c .expanded) :
    fields none (p :: ps) = [p :: ps] := by
  rw [fields_other _ (whole p List.mem_cons_self),
    fields_whole fun q member => whole q (List.mem_cons_of_mem _ member)]
  rfl

/-- The fields of a text. -/
def textFields (field : Option (List Char)) : List Char → List (List Char)
  | [] => field.toList
  | c :: cs =>
    if c = ' ' ∨ c = '\t' ∨ c = '\n' then field.toList ++ textFields none cs
    else textFields (some (field.getD [] ++ [c])) cs

theorem fields_expanded (field : Option (List Char)) (cs : List Char) :
    fields (field.map (quoted .expanded)) (quoted .expanded cs) =
      (textFields field cs).map (quoted .expanded) := by
  induction cs generalizing field with
  | nil => cases field <;> rfl
  | cons c cs ih =>
    rw [quoted_cons, fields, textFields]
    split
    · have after := ih none
      cases field <;> simp_all
    · have after := ih (some (field.getD [] ++ [c]))
      cases field <;> simp_all [quoted]

theorem allNames_expanded (host : Host) (cs : List Char) :
    allNames host (quoted .expanded cs) =
      (textFields none cs).flatMap fun f => names host (quoted .expanded f) := by
  rw [allNames]
  have split := fields_expanded none cs
  rw [Option.map_none] at split
  rw [split, List.flatMap_map]

end Fields

end Shell
