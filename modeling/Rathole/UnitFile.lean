import Mathlib.Data.List.DropRight
import Rathole.Transduce

set_option autoImplicit false

/- How systemd reads a unit file: the directives of its text, and the commands of an ExecStart
line. Its limits on the length of a line or a path, and the code points that Unicode gives no
character, are left out. -/
namespace UnitFile

def isLineEnd (c : Char) : Bool := c = '\n' ∨ c = '\r' ∨ c = '\x00'

def isBlank (c : Char) : Bool := c = ' ' ∨ c = '\t' ∨ c = '\n' ∨ c = '\r'

def lines : List Char → List (List Char)
  | [] => [[]]
  | c :: cs => if isLineEnd c then [] :: lines cs else (lines cs).modifyHead (c :: ·)

def strip (text : List Char) : List Char := (text.dropWhile isBlank).rdropWhile isBlank

def isComment (line : List Char) : Bool :=
  let start := (line.dropWhile isBlank).head?
  start = some '#' ∨ start = some ';'

/-- The line goes on in the next one. -/
def goesOn (line : List Char) : Bool := (line.rtakeWhile (· = '\\')).length % 2 = 1

/-- Lines that go on put together, after what an earlier one has begun. -/
def logical (begun : List Char) : List (List Char) → List (List Char)
  | [] => [begun]
  | line :: rest =>
    if isComment line then logical begun rest
    else if goesOn (begun ++ line) then logical ((begun ++ line).dropLast ++ [' ']) rest
    else (begun ++ line) :: logical [] rest

structure Directive where
  header : String
  key : String
  value : String
  deriving DecidableEq

/-- The header that a line leaves, and the directive that it is. A header that does not end spoils
the file, a line that gives nothing a value is passed. -/
def readLine (header : String) (line : List Char) : Option (String × List Directive) :=
  let text := strip line
  if text.head? = some '[' then
    if text.getLast? = some ']' then some (String.ofList text.tail.dropLast, []) else none
  else
    let key := strip (text.takeWhile (· ≠ '='))
    let value := strip ((text.dropWhile (· ≠ '=')).drop 1)
    if '=' ∈ text ∧ key ≠ [] then
      some (header, [⟨header, String.ofList key, String.ofList value⟩])
    else some (header, [])

def directives (text : String) : Option (List Directive) :=
  (Transduce.run readLine "" (logical [] (lines text.toList))).map Prod.snd

/-- A character, and whether an escape gave it. -/
structure Cell where
  char : Char
  escaped : Bool
  deriving DecidableEq

def Cell.plain (c : Char) : Cell := ⟨c, false⟩

/-- The escapes of one character. -/
def named : List (Char × Char) :=
  [('a', '\x07'), ('b', '\x08'), ('f', '\x0c'), ('n', '\n'), ('r', '\r'), ('t', '\t'),
    ('v', '\x0b'), ('\\', '\\'), ('"', '"'), ('\'', '\''), ('s', ' '), (';', ';')]

def digit (c : Char) : Nat :=
  if c.isDigit then c.toNat - '0'.toNat
  else if 'a' ≤ c ∧ c ≤ 'f' then c.toNat - 'a'.toNat + 10
  else if 'A' ≤ c ∧ c ≤ 'F' then c.toNat - 'A'.toNat + 10
  else 16

/-- The character of a code with so many digits, and how long the escape is. NUL has none. -/
def coded (base count letter : Nat) (digits : List Char) : Option (Char × Nat) :=
  let code := digits.take count
  let value := code.foldl (fun n c => base * n + digit c) 0
  if code.length = count ∧ code.all (fun c => digit c < base) ∧ value ≠ 0 ∧ value.isValidChar then
    some (Char.ofNat value, letter + count)
  else none

def escape : List Char → Option (Char × Nat)
  | [] => none
  | c :: cs =>
    if c = 'x' then coded 16 2 1 cs
    else if c = 'u' then coded 16 4 1 cs
    else if c = 'U' then coded 16 8 1 cs
    else
      match named.lookup c with
      | some e => some (e, 1)
      | none => coded 8 3 0 (c :: cs)

/-- The cells of a text, after characters that an escape has used. -/
def unescape (used : Nat) : List Char → Option (List Cell)
  | [] => some []
  | c :: cs =>
    if used ≠ 0 then unescape (used - 1) cs
    else if c = '\\' then do
      let (e, n) ← escape cs
      (⟨e, true⟩ :: ·) <$> unescape n cs
    else (.plain c :: ·) <$> unescape 0 cs

inductive Token
  | word (text : List Char)
  | semicolon
  deriving DecidableEq

/-- The words of the cells, the word and the quotes that they begin in. A semicolon of its own
separates commands, but does not begin one. -/
def scan (first : Bool) (word : Option (List Char)) (quote : Option Char) :
    List Cell → Option (List Token)
  | [] => if quote = none then some (word.toList.map .word) else none
  | cell :: cells =>
    match quote with
    | some q =>
      if cell = .plain q then scan first word none cells
      else scan first (some (word.getD [] ++ [cell.char])) quote cells
    | none =>
      if cell = .plain '"' ∨ cell = .plain '\'' then
        scan first (some (word.getD [])) (some cell.char) cells
      else if cell.escaped = false ∧ isBlank cell.char then
        match word with
        | none => scan first none none cells
        | some w => (.word w :: ·) <$> scan false none none cells
      else if first = false ∧ word = none ∧ cell.char = ';' ∧
          cells.head?.all (fun next => !next.escaped && isBlank next.char) then
        (.semicolon :: ·) <$> scan true none none cells
      else scan first (some (word.getD [] ++ [cell.char])) none cells

def tokens (value : List Char) : Option (List Token) :=
  (unescape 0 value).bind (scan true none none)

/-- The words of each command. A semicolon is never an executable, and is passed where one is
expected. -/
def groups (words : List (List Char)) : List Token → List (List (List Char))
  | [] => if words = [] then [] else [words]
  | .word w :: rest =>
    if words = [] ∧ w = [';'] then groups [] rest else groups (words ++ [w]) rest
  | .semicolon :: rest => if words = [] then groups [] rest else words :: groups [] rest

/-- The letters that a percent sign makes a specifier. -/
def specifiers : List Char := "aAbBCdDEfgGhHiIjJlLmMnNopPqsStTuUvVwWyY".toList

/-- What the meaning of a command line depends on. -/
structure Host where
  specifier : Char → Option (List Char)
  environment : List Char → List Char
  /-- A value as the words of its own that it stands for. -/
  words : List Char → List (List Char)

/-- `percent` says that a percent sign is open. -/
def resolve (host : Host) (percent : Bool) : List Char → Option (List Char)
  | [] => some (if percent then ['%'] else [])
  | c :: cs =>
    if percent then
      if c = '%' then ('%' :: ·) <$> resolve host false cs
      else if c ∈ specifiers then do
        let value ← host.specifier c
        (value ++ ·) <$> resolve host false cs
      else (['%', c] ++ ·) <$> resolve host false cs
    else if c = '%' then resolve host true cs
    else (c :: ·) <$> resolve host false cs

/-- Where in a word the search for variables is. -/
inductive Place
  | text | dollar
  | name (read : List Char)

/-- The braces of a variable and what is in them. -/
def replace (host : Host) : Place → List Char → List Char
  | .text, [] => []
  | .dollar, [] => ['$']
  | .name read, [] => '$' :: '{' :: read
  | .text, c :: cs => if c = '$' then replace host .dollar cs else c :: replace host .text cs
  | .dollar, c :: cs =>
    if c = '{' then replace host (.name []) cs
    else if c = '$' then '$' :: replace host .text cs
    else '$' :: c :: replace host .text cs
  | .name read, c :: cs =>
    if c = '}' then host.environment read ++ replace host .text cs
    else if c = ':' then '$' :: '{' :: read ++ ':' :: replace host .text cs
    else replace host (.name (read ++ [c])) cs

/-- A variable without braces is a word of its own. -/
def expand (host : Host) (word : List Char) : List (List Char) :=
  if word.head? = some '$' ∧ word.tail.head? ≠ some '{' ∧ word.tail.head? ≠ some '$' then
    host.words (host.environment word.tail)
  else [replace host .text word]

/-- The characters in front of an executable that say how it is run. -/
def prefixes : List Char := ['@', '-', ':', '+', '!', '|']

def isSafe (c : Char) : Bool := ' ' ≤ c ∧ c ∉ ['"', '\'', '\\', '\x7f']

/-- An absolute path or a file name. -/
def isExecutable (path : List Char) : Bool :=
  path ≠ [] ∧ path.all isSafe ∧ path.getLast? ≠ some '/' ∧
    (path.head? = some '/' ∨ '/' ∉ path ∧ path ≠ ['.'] ∧ path ≠ ['.', '.'])

structure Command where
  flags : List Char
  path : List Char
  argv : List (List Char)
  deriving DecidableEq

def command (host : Host) : List (List Char) → Option Command
  | [] => none
  | first :: rest => do
    let flags := first.takeWhile (· ∈ prefixes)
    let path ← resolve host false (first.dropWhile (· ∈ prefixes))
    if !isExecutable path then none
    let args ← rest.mapM (resolve host false)
    let argv := if '@' ∈ flags then args else path :: args
    some ⟨flags, path, if ':' ∈ flags then argv else argv.flatMap (expand host)⟩

def commands (host : Host) (value : String) : Option (List Command) := do
  let tokens ← tokens value.toList
  (groups [] tokens).mapM (command host)

section Lines

variable {line begun : List Char} {rest : List (List Char)} {text more : List Char}

theorem lines_append (clean : ∀ c ∈ line, isLineEnd c = false) :
    lines (line ++ text) = (lines text).modifyHead (line ++ ·) := by
  induction line with
  | nil =>
    simp only [List.nil_append]
    cases lines text <;> rfl
  | cons c line ih =>
    have here := clean c List.mem_cons_self
    rw [List.cons_append, lines, here, ih fun c member => clean c (List.mem_cons_of_mem _ member)]
    cases lines text <;> rfl

theorem lines_end {c : Char} (clean : ∀ c ∈ line, isLineEnd c = false)
    (ends : isLineEnd c = true) : lines (line ++ c :: text) = line :: lines text := by
  rw [lines_append clean, lines, ends]
  simp

/-- The first line of a text that ends, and all of it when nothing in it ends a line. -/
theorem lines_first {c : Char} (ends : isLineEnd c = true) (text rest : List Char) :
    ∃ more, lines (text ++ c :: rest) = text.takeWhile (fun c => !isLineEnd c) :: more ∧
      ((∀ c ∈ text, isLineEnd c = false) → more = lines rest) := by
  induction text with
  | nil => exact ⟨lines rest, by simp [lines, ends], fun _ => rfl⟩
  | cons d text ih =>
    obtain ⟨more, first, whole⟩ := ih
    rw [List.cons_append, lines]
    cases broken : isLineEnd d with
    | true =>
      refine ⟨lines (text ++ c :: rest), by simp [broken], fun clean => ?_⟩
      rw [clean d List.mem_cons_self] at broken
      cases broken
    | false =>
      refine ⟨more, by simp [broken, first], fun clean => ?_⟩
      exact whole fun c member => clean c (List.mem_cons_of_mem _ member)

theorem goesOn_of_plain (plain : '\\' ∉ line) : goesOn line = false := by
  have none : line.rtakeWhile (· = '\\') = [] := by
    rw [List.rtakeWhile_eq_nil_iff]
    intro nonempty ends
    exact plain (of_decide_eq_true ends ▸ List.getLast_mem nonempty)
  rw [goesOn, none]
  rfl

theorem logical_line (meant : isComment line = false) (whole : goesOn line = false) :
    logical [] (line :: rest) = line :: logical [] rest := by
  rw [logical, if_neg (by simp [meant]), List.nil_append, if_neg (by simp [whole])]

theorem logical_append {before : List (List Char)}
    (plain : ∀ line ∈ before, isComment line = false ∧ goesOn line = false) :
    logical [] (before ++ rest) = before ++ logical [] rest := by
  induction before with
  | nil => rfl
  | cons line before ih =>
    have here := plain line List.mem_cons_self
    rw [List.cons_append, logical_line here.1 here.2,
      ih fun line member => plain line (List.mem_cons_of_mem _ member)]
    rfl

theorem rdropWhile_append {last : Char} (line : List Char) (kept : isBlank last = false)
    (text : List Char) :
    (line ++ last :: text).rdropWhile isBlank = line ++ last :: text.rdropWhile isBlank := by
  induction text using List.reverseRecOn with
  | nil => simp [kept]
  | append_singleton text c ih =>
    have whole : line ++ last :: (text ++ [c]) = (line ++ last :: text) ++ [c] := by simp
    rw [whole, List.rdropWhile_concat, List.rdropWhile_concat, ih]
    split <;> simp

/-- Only what follows a text can be stripped of it. -/
theorem strip_append {first last : Char} (begins : isBlank first = false)
    (ends : isBlank last = false) (text : List Char) :
    strip (first :: line ++ last :: text) =
      first :: line ++ last :: text.rdropWhile isBlank := by
  have front : (first :: line ++ last :: text).dropWhile isBlank =
      first :: line ++ last :: text := by
    rw [List.cons_append, List.dropWhile_cons_of_neg (by simp [begins])]
  rw [strip, front, rdropWhile_append _ ends]

/-- A line that gives a key a value. -/
theorem readLine_value {header : String} {key value : List Char} {first : Char}
    (begins : isBlank first = false ∧ first ≠ '[') (plain : '=' ∉ first :: key)
    (stripped : strip (first :: key) = first :: key) :
    readLine header (first :: key ++ '=' :: value) =
      some (header, [⟨header, String.ofList (first :: key),
        String.ofList (strip (value.rdropWhile isBlank))⟩]) := by
  have text : strip (first :: key ++ '=' :: value) =
      first :: key ++ '=' :: value.rdropWhile isBlank := strip_append begins.1 rfl value
  have parts : ∀ c ∈ first :: key, decide (c ≠ '=') = true := fun c member =>
    decide_eq_true (fun same => plain (same ▸ member))
  have before : (first :: key ++ '=' :: value.rdropWhile isBlank).takeWhile (· ≠ '=') =
      first :: key := by
    rw [List.takeWhile_append_of_pos parts, List.takeWhile_cons_of_neg (by simp), List.append_nil]
  have after : (first :: key ++ '=' :: value.rdropWhile isBlank).dropWhile (· ≠ '=') =
      '=' :: value.rdropWhile isBlank := by
    rw [List.dropWhile_append_of_pos parts, List.dropWhile_cons_of_neg (by simp)]
  unfold readLine
  simp only [text, before, after, stripped, List.drop_succ_cons, List.drop_zero]
  rw [if_neg (by simp [begins.2]), if_pos (by simp)]

end Lines

section Words

variable {first : Bool} {word : Option (List Char)} {w text : List Char} {cells : List Cell}

/-- A character that stands for itself outside of quotes. -/
def isOrdinary (c : Char) : Bool := !isBlank c && c ≠ '"' && c ≠ '\''

theorem unescape_plain (plain : '\\' ∉ text) : unescape 0 text = some (text.map .plain) := by
  induction text with
  | nil => rfl
  | cons c text ih =>
    rw [List.mem_cons, not_or] at plain
    rw [unescape, if_neg (by simp), if_neg (Ne.symm plain.1), ih plain.2]
    rfl

theorem scan_quoted {q : Char} (inside : q ∉ text) :
    scan first (some w) (some q) (text.map .plain ++ .plain q :: cells) =
      scan first (some (w ++ text)) none cells := by
  induction text generalizing w with
  | nil => simp [scan]
  | cons c text ih =>
    rw [List.mem_cons, not_or] at inside
    have other : Cell.plain c ≠ .plain q := fun same => inside.1 (congrArg Cell.char same).symm
    have after := ih (w := w ++ [c]) inside.2
    rw [List.append_assoc] at after
    rw [List.map_cons, List.cons_append, scan, if_neg other]
    exact after

/-- A quote that is not closed spoils the line. -/
theorem scan_unclosed {q : Char} (inside : q ∉ text) :
    scan first word (some q) (text.map .plain) = none := by
  induction text generalizing word with
  | nil => rfl
  | cons c text ih =>
    rw [List.mem_cons, not_or] at inside
    have other : Cell.plain c ≠ .plain q := fun same => inside.1 (congrArg Cell.char same).symm
    rw [List.map_cons, scan, if_neg other]
    exact ih inside.2

theorem scan_ordinary (ordinary : ∀ c ∈ text, isOrdinary c = true) :
    scan first (some w) none (text.map .plain ++ cells) =
      scan first (some (w ++ text)) none cells := by
  induction text generalizing w with
  | nil => simp
  | cons c text ih =>
    have here := ordinary c List.mem_cons_self
    have after := ih (w := w ++ [c]) fun c member => ordinary c (List.mem_cons_of_mem _ member)
    rw [List.append_assoc] at after
    simp only [isOrdinary, Bool.and_eq_true, Bool.not_eq_true', decide_eq_true_eq] at here
    simpa [scan, Cell.plain, here.1.1, here.1.2, here.2] using after

theorem scan_open (quote : Char) (mark : quote = '"' ∨ quote = '\'') :
    scan first none none (.plain quote :: cells) = scan first (some []) (some quote) cells := by
  rcases mark with rfl | rfl <;> simp [scan, Cell.plain]

theorem scan_blank : scan first (some w) none (.plain ' ' :: cells) =
    (.word w :: ·) <$> scan false none none cells := by
  simp [scan, Cell.plain, isBlank]

/-- The first character of a word, unless it is a semicolon that separates commands. -/
theorem scan_start {c : Char} (ordinary : isOrdinary c = true)
    (begins : first = true ∨ c ≠ ';' ∨ ∃ next rest, isBlank next = false ∧
      cells = .plain next :: rest) :
    scan first none none (.plain c :: cells) = scan first (some [c]) none cells := by
  simp only [isOrdinary, Bool.and_eq_true, Bool.not_eq_true', decide_eq_true_eq] at ordinary
  have apart : ¬ (first = false ∧ c = ';' ∧
      cells.head?.all (fun next => !next.escaped && isBlank next.char) = true) := by
    rintro ⟨rfl, rfl, alone⟩
    rcases begins with first | other | ⟨next, rest, tight, rfl⟩
    · cases first
    · exact other rfl
    · simp [Cell.plain, tight] at alone
  rw [scan]
  simp only [Cell.plain, Cell.mk.injEq, and_true, ordinary.1.1, ordinary.1.2, ordinary.2,
    or_self, if_false, and_false, Bool.false_eq_true, true_and, if_neg apart]
  rfl

/-- Without blanks and double quotes there is one word, and it has no single quotes. -/
theorem scan_rest {quote : Option Char} {read : List Token} (single : quote.all (· = '\''))
    (tight : ∀ c ∈ text, isBlank c = false ∧ c ≠ '"')
    (reads : scan first (some w) quote (text.map .plain) = some read) :
    read = [.word (w ++ text.filter (· ≠ '\''))] := by
  induction text generalizing w quote with
  | nil =>
    simp only [List.map_nil, scan] at reads
    split at reads
    · cases reads
      simp
    · cases reads
  | cons c text ih =>
    have here := tight c List.mem_cons_self
    have below := fun c member => tight c (List.mem_cons_of_mem _ member)
    rw [List.map_cons] at reads
    have rest : c ≠ '\'' → (c :: text).filter (· ≠ '\'') = c :: text.filter (· ≠ '\'') := by
      intro other
      simp [other]
    by_cases mark : c = '\''
    · subst mark
      cases quote with
      | none =>
        simp only [scan, or_true, if_true] at reads
        rw [ih rfl below reads]
        simp
      | some q =>
        have same : q = '\'' := by simpa using single
        simp only [scan, same, if_true] at reads
        rw [ih rfl below reads]
        simp
    · have longer : w ++ (c :: text).filter (· ≠ '\'') =
          w ++ [c] ++ text.filter (· ≠ '\'') := by rw [rest mark, List.append_assoc]; rfl
      rw [longer]
      cases quote with
      | none =>
        simp [scan, Cell.plain, mark, here.1, here.2] at reads
        exact ih rfl below reads
      | some q =>
        have same : q = '\'' := by simpa using single
        simp [scan, Cell.plain, same, mark] at reads
        exact ih rfl below reads

/-- What a text without blanks and double quotes can be. -/
theorem scan_tight {read : List Token} (tight : ∀ c ∈ text, isBlank c = false ∧ c ≠ '"')
    (nonempty : text ≠ []) (reads : scan false none none (text.map .plain) = some read) :
    text = [';'] ∧ read = [.semicolon] ∨
      text ≠ [';'] ∧ read = [.word (text.filter (· ≠ '\''))] := by
  cases text with
  | nil => exact absurd rfl nonempty
  | cons c text =>
    have here := tight c List.mem_cons_self
    have below := fun c member => tight c (List.mem_cons_of_mem _ member)
    by_cases mark : c = '\''
    · subst mark
      rw [List.map_cons, scan_open _ (.inr rfl)] at reads
      refine .inr ⟨by simp, ?_⟩
      rw [scan_rest (by simp) below reads]
      simp
    · have ordinary : isOrdinary c = true := by simp [isOrdinary, here.1, here.2, mark]
      by_cases alone : c = ';' ∧ text = []
      · obtain ⟨rfl, rfl⟩ := alone
        refine .inl ⟨rfl, ?_⟩
        simp [scan, Cell.plain, isBlank] at reads
        exact reads.symm
      · have begins : false = true ∨ c ≠ ';' ∨ ∃ next rest, isBlank next = false ∧
            text.map Cell.plain = .plain next :: rest := by
          by_cases semicolon : c = ';'
          · cases text with
            | nil => exact absurd ⟨semicolon, rfl⟩ alone
            | cons d text => exact .inr (.inr ⟨d, _, (below d List.mem_cons_self).1, rfl⟩)
          · exact .inr (.inl semicolon)
        rw [List.map_cons, scan_start ordinary begins] at reads
        refine .inr ⟨fun same => alone (by simpa using same), ?_⟩
        rw [scan_rest rfl below reads]
        simp [mark]

/-- A word goes to its command, unless it is a semicolon where the executable is expected. -/
theorem groups_word {begun : List (List Char)} {rest : List Token}
    (named : begun ≠ [] ∨ w ≠ [';']) :
    groups begun (.word w :: rest) = groups (begun ++ [w]) rest := by
  rw [groups, if_neg (not_and_or.mpr named)]

theorem groups_semicolon (rest : List Token) : groups [] (.word [';'] :: rest) = groups [] rest := by
  rw [groups, if_pos ⟨rfl, rfl⟩]

/-- A command that has begun ends with at most one more word. -/
theorem groups_last {begun group : List (List Char)} {rest : List Token} {p : List Char → Prop}
    (some : begun ≠ [])
    (shape : rest = [] ∨ rest = [.semicolon] ∨ ∃ w, rest = [.word w] ∧ p w)
    (grouped : groups begun rest = [group]) :
    ∃ words, group = begun ++ words ∧ words.length ≤ 1 ∧ ∀ w, words = [w] → p w := by
  rcases shape with rfl | rfl | ⟨w, rfl, holds⟩
  · rw [groups, if_neg some] at grouped
    exact ⟨[], by simpa using grouped.symm, Nat.zero_le 1, by simp⟩
  · rw [groups, if_neg some] at grouped
    exact ⟨[], by simpa using (List.cons.inj grouped).1.symm, Nat.zero_le 1, by simp⟩
  · rw [groups_word (.inl some), groups, if_neg (by simp)] at grouped
    refine ⟨[w], by simpa using grouped.symm, Nat.le_refl 1, fun v same => ?_⟩
    cases same
    exact holds

end Words

section Expansion

variable {host : Host} {text : List Char}

/-- A text in which every percent sign stands for itself. -/
inductive NoSpecifier : List Char → Prop
  | nil : NoSpecifier []
  | last : NoSpecifier ['%']
  | char {c : Char} {cs : List Char} (other : c ≠ '%') (rest : NoSpecifier cs) :
    NoSpecifier (c :: cs)
  | unknown {c : Char} {cs : List Char} (other : c ≠ '%') (free : c ∉ specifiers)
    (rest : NoSpecifier cs) : NoSpecifier ('%' :: c :: cs)

/-- A text in which every dollar sign stands for itself: no other follows it, and a brace that
follows it is not closed, or has a colon in it. -/
inductive NoVariable : List Char → Prop
  | nil : NoVariable []
  | last : NoVariable ['$']
  | char {c : Char} {cs : List Char} (other : c ≠ '$') (rest : NoVariable cs) : NoVariable (c :: cs)
  | dollar {c : Char} {cs : List Char} (other : c ≠ '$') (brace : c ≠ '{') (rest : NoVariable cs) :
    NoVariable ('$' :: c :: cs)
  | unclosed {name : List Char} (inside : '}' ∉ name ∧ ':' ∉ name) :
    NoVariable ('$' :: '{' :: name)
  | colon {name cs : List Char} (inside : '}' ∉ name ∧ ':' ∉ name) (rest : NoVariable cs) :
    NoVariable ('$' :: '{' :: (name ++ ':' :: cs))

/-- A word that means itself on every host. -/
structure Literal (word : List Char) : Prop where
  specifier : NoSpecifier word
  environment : NoVariable word
  leading : word.head? = some '$' → word.tail.head? = some '{'

/-- A host that knows nothing. -/
def Host.bare : Host := ⟨fun _ => none, fun _ => [], fun _ => []⟩

theorem NoSpecifier.resolve (free : NoSpecifier text) : resolve host false text = some text := by
  induction free with
  | nil => rfl
  | last => rfl
  | char other rest ih => simp [UnitFile.resolve, other, ih]
  | unknown other free rest ih => simp [UnitFile.resolve, other, free, ih]

/-- What is in front of the text when a percent sign is open. -/
def percentSign (percent : Bool) : List Char := if percent then ['%'] else []

theorem resolve_bare_length {percent : Bool} {value : List Char}
    (resolved : resolve .bare percent text = some value) :
    value.length ≤ (percentSign percent).length + text.length := by
  induction text generalizing percent value with
  | nil =>
    cases percent <;> cases resolved <;> simp [percentSign]
  | cons c text ih =>
    rw [resolve] at resolved
    split at resolved
    · next signed =>
      split at resolved
      · rw [Option.map_eq_map, Option.map_eq_some_iff] at resolved
        obtain ⟨rest, rests, rfl⟩ := resolved
        have := ih rests
        simp [percentSign, signed] at this ⊢
        omega
      · split at resolved
        · cases resolved
        · rw [Option.map_eq_map, Option.map_eq_some_iff] at resolved
          obtain ⟨rest, rests, rfl⟩ := resolved
          have := ih rests
          simp [percentSign, signed] at this ⊢
          omega
    · next unsigned =>
      split at resolved
      · have := ih resolved
        simp [percentSign, unsigned] at this ⊢
        omega
      · rw [Option.map_eq_map, Option.map_eq_some_iff] at resolved
        obtain ⟨rest, rests, rfl⟩ := resolved
        have := ih rests
        simp [percentSign, unsigned] at this ⊢
        omega

/-- Where no specifier is known, a text that keeps its length has none. -/
theorem noSpecifier_of_resolve_bare {percent : Bool} {value : List Char}
    (resolved : resolve .bare percent text = some value)
    (kept : value.length = (percentSign percent).length + text.length) :
    NoSpecifier (percentSign percent ++ text) ∧ value = percentSign percent ++ text := by
  induction text generalizing percent value with
  | nil =>
    cases percent <;> cases resolved
    · exact ⟨.nil, rfl⟩
    · exact ⟨.last, rfl⟩
  | cons c text ih =>
    rw [resolve] at resolved
    cases percent with
    | true =>
      simp only [if_true] at resolved
      split at resolved
      · rw [Option.map_eq_map, Option.map_eq_some_iff] at resolved
        obtain ⟨rest, rests, rfl⟩ := resolved
        have short := resolve_bare_length rests
        simp [percentSign] at short kept
        omega
      · next other =>
        split at resolved
        · cases resolved
        · next free =>
          rw [Option.map_eq_map, Option.map_eq_some_iff] at resolved
          obtain ⟨rest, rests, rfl⟩ := resolved
          obtain ⟨none, whole⟩ := ih rests (by simp [percentSign] at kept ⊢; omega)
          rw [whole]
          exact ⟨.unknown other free none, rfl⟩
    | false =>
      simp only [Bool.false_eq_true, if_false] at resolved
      split at resolved
      · next sign =>
        subst sign
        exact ih resolved (by simp [percentSign] at kept ⊢; omega)
      · next other =>
        rw [Option.map_eq_map, Option.map_eq_some_iff] at resolved
        obtain ⟨rest, rests, rfl⟩ := resolved
        obtain ⟨none, whole⟩ := ih rests (by simp [percentSign] at kept ⊢; omega)
        rw [whole]
        exact ⟨.char other none, rfl⟩

theorem replace_name (host : Host) (read rest : List Char) {name : List Char}
    (inside : '}' ∉ name ∧ ':' ∉ name) :
    replace host (.name read) (name ++ rest) = replace host (.name (read ++ name)) rest := by
  induction name generalizing read with
  | nil => simp
  | cons c name ih =>
    simp only [List.mem_cons, not_or] at inside
    rw [List.cons_append, replace, if_neg (Ne.symm inside.1.1), if_neg (Ne.symm inside.2.1),
      ih _ ⟨inside.1.2, inside.2.2⟩, List.append_assoc]
    rfl

theorem NoVariable.replace (free : NoVariable text) : replace host .text text = text := by
  induction free with
  | nil => rfl
  | last => rfl
  | char other rest ih => simp [UnitFile.replace, other, ih]
  | dollar other brace rest ih => simp [UnitFile.replace, other, brace, ih]
  | @unclosed name inside =>
    have passed := replace_name host [] [] inside
    simpa [UnitFile.replace] using passed
  | @colon name cs inside rest ih =>
    have passed := replace_name host [] (':' :: cs) inside
    simpa [UnitFile.replace, ih] using passed

/-- What the search has passed over without a decision. -/
def Place.opened : Place → List Char
  | .text => []
  | .dollar => ['$']
  | .name read => '$' :: '{' :: read

theorem replace_bare_length (place : Place) (text : List Char) :
    (replace .bare place text).length ≤ place.opened.length + text.length := by
  induction text generalizing place with
  | nil => cases place <;> simp [replace, Place.opened]
  | cons c text ih =>
    have plain := ih .text
    simp only [Place.opened, List.length_nil] at plain
    cases place with
    | text =>
      have dollar := ih .dollar
      simp only [Place.opened, List.length_singleton] at dollar
      simp only [replace, Place.opened, List.length_nil, List.length_cons]
      split
      · omega
      · simp only [List.length_cons]
        omega
    | dollar =>
      have name := ih (.name [])
      simp only [Place.opened, List.length_cons, List.length_nil] at name
      simp only [replace, Place.opened, List.length_cons, List.length_nil]
      split
      · omega
      · split <;> simp only [List.length_cons] <;> omega
    | name read =>
      have longer := ih (.name (read ++ [c]))
      simp only [Place.opened, List.length_cons, List.length_append, List.length_nil] at longer
      simp only [replace, Place.opened, List.length_cons, Host.bare, List.nil_append]
      simp only [Host.bare] at plain longer
      split
      · omega
      · split
        · simp only [List.length_append, List.length_cons]
          omega
        · omega

/-- The name of a variable that has begun can still be one. -/
def Place.sound : Place → Prop
  | .name read => '}' ∉ read ∧ ':' ∉ read
  | _ => True

theorem noVariable_of_replace_bare (place : Place) (sound : place.sound)
    (same : replace .bare place text = place.opened ++ text) :
    NoVariable (place.opened ++ text) := by
  induction text generalizing place with
  | nil =>
    rw [List.append_nil]
    cases place with
    | text => exact .nil
    | dollar => exact .last
    | name read => exact .unclosed sound
  | cons c text ih =>
    have short := replace_bare_length .text text
    simp only [Place.opened, List.length_nil] at short
    have lengths := congrArg List.length same
    cases place with
    | text =>
      simp only [replace, Place.opened, List.nil_append] at same ⊢
      split at same
      · next sign =>
        subst sign
        exact ih .dollar trivial same
      · next other => exact .char other (ih .text trivial (List.cons.inj same).2)
    | dollar =>
      simp only [replace, Place.opened, List.singleton_append] at same lengths ⊢
      split at same
      · next brace =>
        subst brace
        exact ih (.name []) ⟨by simp, by simp⟩ same
      · next brace =>
        rw [if_neg brace] at lengths
        split at same
        · next sign =>
          rw [if_pos sign] at lengths
          simp only [List.length_cons] at lengths
          omega
        · next other =>
          have rest := (List.cons.inj (List.cons.inj same).2).2
          exact .dollar other brace (ih .text trivial rest)
    | name read =>
      simp only [replace, Place.opened, List.cons_append] at same lengths ⊢
      split at same
      · next closed =>
        rw [if_pos closed] at lengths
        simp only [Host.bare, List.nil_append, List.length_cons, List.length_append]
          at lengths short
        omega
      · next open_ =>
        split at same
        · next mark =>
          subst mark
          have rest := (List.append_cancel_left (List.cons.inj (List.cons.inj same).2).2)
          exact .colon sound (ih .text trivial (List.cons.inj rest).2)
        · next plain =>
          have longer : Place.sound (.name (read ++ [c])) := by
            simp [Place.sound, sound.1, sound.2, Ne.symm open_, Ne.symm plain]
          have after := ih _ longer (by simpa [Place.opened] using same)
          simpa [Place.opened] using after

theorem Literal.expand {word : List Char} (literal : Literal word) :
    expand host word = [word] := by
  unfold UnitFile.expand
  rw [if_neg, literal.environment.replace]
  rintro ⟨sign, brace, -⟩
  exact brace (literal.leading sign)

/-- Where nothing is known no word grows. -/
theorem bare_length {word resolved value : List Char}
    (resolves : resolve .bare false word = some resolved)
    (expands : value ∈ expand .bare resolved) :
    value.length ≤ resolved.length ∧ resolved.length ≤ word.length := by
  have short := resolve_bare_length resolves
  simp only [percentSign, List.length_nil, Bool.false_eq_true, if_false, Nat.zero_add] at short
  refine ⟨?_, short⟩
  unfold expand at expands
  split at expands
  · cases expands
  · rw [List.mem_singleton] at expands
    have shorter := replace_bare_length .text resolved
    rw [← expands] at shorter
    simpa [Place.opened] using shorter

/-- A word that stays as it is where nothing is known means itself. -/
theorem literal_of_bare {word resolved : List Char}
    (resolves : resolve .bare false word = some resolved) (expands : word ∈ expand .bare resolved) :
    Literal word := by
  have lengths := bare_length resolves expands
  obtain ⟨specifier, whole⟩ := noSpecifier_of_resolve_bare resolves
    (by simp only [percentSign, List.length_nil, Bool.false_eq_true, if_false]; omega)
  rw [whole] at expands
  simp only [percentSign, List.nil_append, Bool.false_eq_true, if_false] at specifier expands
  unfold expand at expands
  split at expands
  · cases expands
  · next placed =>
    rw [List.mem_singleton] at expands
    have free := noVariable_of_replace_bare .text trivial expands.symm
    refine ⟨specifier, free, fun sign => ?_⟩
    by_contra brace
    refine placed ⟨sign, brace, fun twice => ?_⟩
    cases word with
    | nil => cases sign
    | cons c word =>
      cases word with
      | nil => cases twice
      | cons d word =>
        cases Option.some.inj sign
        cases Option.some.inj twice
        cases free with
        | char other => exact other rfl
        | dollar other => exact other rfl

end Expansion

section Commands

variable {host : Host} {word : List Char} {words : List (List Char)} {c : Command}

theorem expand_bare_length (word : List Char) : (expand .bare word).length ≤ 1 := by
  unfold expand
  split
  · exact Nat.zero_le 1
  · exact Nat.le_refl 1

theorem safe_of_executable (executable : isExecutable word = true) :
    word ≠ [] ∧ ∀ c ∈ word, isSafe c = true := by
  simp only [isExecutable, Bool.decide_and, Bool.and_eq_true, decide_eq_true_eq] at executable
  exact ⟨executable.1, List.all_eq_true.mp executable.2.1⟩

theorem isSafe_iff {c : Char} : isSafe c = true ↔ ' ' ≤ c ∧ c ∉ ['"', '\'', '\\', '\x7f'] := by
  simp only [isSafe, Bool.decide_and, Bool.and_eq_true, decide_eq_true_eq]

theorem command_inv {first : List Char} (made : command host (first :: words) = some c) :
    resolve host false (first.dropWhile (· ∈ prefixes)) = some c.path ∧
      isExecutable c.path = true ∧ c.flags = first.takeWhile (· ∈ prefixes) ∧
      ∃ args, words.mapM (resolve host false) = some args ∧
        (c.flags = [] → c.argv = (c.path :: args).flatMap (expand host)) := by
  simp only [command, Option.bind_eq_bind, Option.bind_eq_some_iff] at made
  obtain ⟨path, resolved, made⟩ := made
  cases executable : isExecutable path with
  | false => simp [executable] at made
  | true =>
    simp only [executable, Bool.not_true, Bool.false_eq_true, if_false] at made
    rw [Option.bind_eq_some_iff] at made
    obtain ⟨args, mapped, made⟩ := made
    cases made
    refine ⟨resolved, executable, rfl, args, mapped, fun flags => ?_⟩
    change first.takeWhile (· ∈ prefixes) = [] at flags
    simp [flags]

theorem executable_of_command (made : command host words = some c) :
    isExecutable c.path = true := by
  cases words with
  | nil => cases made
  | cons first words => exact (command_inv made).2.1

/-- A command without flags takes its first word for the executable. -/
theorem command_unflagged {first : List Char} (made : command host (first :: words) = some c)
    (flags : c.flags = []) :
    resolve host false first = some c.path ∧ (∀ f, first.head? = some f → f ∉ prefixes) ∧
      isExecutable c.path = true ∧ ∃ args, words.mapM (resolve host false) = some args ∧
        c.argv = (c.path :: args).flatMap (expand host) := by
  obtain ⟨resolved, executable, front, args, mapped, argv⟩ := command_inv made
  rw [flags] at front
  have plain : ∀ f, first.head? = some f → f ∉ prefixes := by
    cases first with
    | nil => simp
    | cons d first =>
      rw [List.takeWhile_cons] at front
      split at front
      · cases front
      · next other =>
        intro f head
        cases head
        simpa using other
  have whole : first.dropWhile (· ∈ prefixes) = first := by
    cases first with
    | nil => rfl
    | cons d first => exact List.dropWhile_cons_of_neg (by simpa using plain d rfl)
  rw [whole] at resolved
  exact ⟨resolved, plain, executable, args, mapped, argv flags⟩

/-- A literal executable and literal arguments are what runs. -/
theorem command_literal {first : List Char} (executable : isExecutable first = true)
    (plain : ∀ f, first.head? = some f → f ∉ prefixes)
    (literal : ∀ w ∈ first :: words, Literal w) :
    command host (first :: words) = some ⟨[], first, first :: words⟩ := by
  have here := literal first List.mem_cons_self
  have none : first.takeWhile (· ∈ prefixes) = [] ∧ first.dropWhile (· ∈ prefixes) = first := by
    cases first with
    | nil => exact ⟨rfl, rfl⟩
    | cons d first =>
      have other := plain d rfl
      exact ⟨List.takeWhile_cons_of_neg (by simpa using other),
        List.dropWhile_cons_of_neg (by simpa using other)⟩
  have args : words.mapM (resolve host false) = some words := by
    have below := fun w member => literal w (List.mem_cons_of_mem _ member)
    clear literal
    induction words with
    | nil => rfl
    | cons w words ih =>
      rw [List.mapM_cons, (below w List.mem_cons_self).specifier.resolve,
        ih fun w member => below w (List.mem_cons_of_mem _ member)]
      rfl
  have expanded : (first :: words).flatMap (expand host) = first :: words := by
    have each : ∀ w ∈ first :: words, expand host w = [w] := fun w member =>
      (literal w member).expand
    rw [List.flatMap_congr each]
    simp
  simp only [command, none, here.specifier.resolve, executable, args, Option.bind_eq_bind,
    Option.bind_some, Bool.not_true, Bool.false_eq_true, if_false, List.not_mem_nil, expanded]

/-- A value with one command is one group of words. -/
theorem commands_single {value : String} (reads : commands host value = some [c]) :
    ∃ read group, tokens value.toList = some read ∧ groups [] read = [group] ∧
      command host group = some c := by
  unfold commands at reads
  rw [Option.bind_eq_bind, Option.bind_eq_some_iff] at reads
  obtain ⟨read, tokenized, made⟩ := reads
  cases grouped : groups [] read with
  | nil =>
    rw [grouped] at made
    cases made
  | cons group rest =>
    rw [grouped, List.mapM_cons] at made
    simp only [Option.bind_eq_bind, Option.bind_eq_some_iff, Option.pure_def, Option.some.injEq,
      List.cons.injEq] at made
    obtain ⟨first, one, more, others, rfl, none⟩ := made
    cases rest with
    | nil => exact ⟨read, group, tokenized, grouped, one⟩
    | cons other rest =>
      rw [List.mapM_cons] at others
      simp only [Option.bind_eq_bind, Option.bind_eq_some_iff, Option.pure_def,
        Option.some.injEq] at others
      obtain ⟨_, _, _, _, rfl⟩ := others
      cases none

end Commands

end UnitFile
