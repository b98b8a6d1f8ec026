import Rathole.Shell

set_option autoImplicit false

/- Scripts whose lines are assignments, comments and functions. -/
namespace Shell

open Transduce (run)

section Values

variable {name value cs : List Char} {pieces w : List Piece} {quote : Quote}

/-- The pieces of a word that are in quotes. -/
def enclosed (quote : Quote) (cs : List Char) : List Piece :=
  .mark :: (quoted quote cs ++ [.mark])

@[simp] theorem text_enclosed (quote : Quote) (cs : List Char) : text (enclosed quote cs) = cs := by
  simp [enclosed, text]

/-- A part of a word that begins and ends outside of quotes. -/
def Reads (value : List Char) (pieces : List Piece) : Prop :=
  ∀ w, run step ⟨.bare, some w⟩ value = some (⟨.bare, some (w ++ pieces)⟩, [])

theorem reads_plain (plain : ∀ c ∈ cs, isPlain c = true) : Reads cs (quoted .bare cs) :=
  fun _ => run_plain plain

theorem reads_double (plain : ∀ c ∈ cs, c ≠ '\x00' ∧ c ≠ '"' ∧ c ≠ '\\') :
    Reads ('"' :: (cs ++ ['"'])) (enclosed .double cs) := by
  intro w
  have opens : step ⟨.bare, some w⟩ '"' = some (⟨.double, some (w ++ [.mark])⟩, []) := rfl
  have closes : step ⟨.double, some (w ++ [.mark] ++ quoted .double cs)⟩ '"' =
      some (⟨.bare, some (w ++ enclosed .double cs)⟩, []) := by
    simp [step, State.add, enclosed]
  rw [Transduce.run_cons opens, Transduce.run_append_of (run_double plain),
    Transduce.run_cons closes]
  rfl

theorem reads_single (plain : ∀ c ∈ cs, c ≠ '\x00' ∧ c ≠ '\'') :
    Reads ('\'' :: (cs ++ ['\''])) (enclosed .single cs) := by
  intro w
  have opens : step ⟨.bare, some w⟩ '\'' = some (⟨.single, some (w ++ [.mark])⟩, []) := rfl
  have closes : step ⟨.single, some (w ++ [.mark] ++ quoted .single cs)⟩ '\'' =
      some (⟨.bare, some (w ++ enclosed .single cs)⟩, []) := by
    simp [step, State.add, enclosed]
  rw [Transduce.run_cons opens, Transduce.run_append_of (run_single plain),
    Transduce.run_cons closes]
  rfl

/-- A name that can be assigned. -/
structure IsName (name : List Char) : Prop where
  start : name.head?.any isNameStart = true
  chars : name.all isNameChar = true

theorem isPlain_of_isNameChar {c : Char} (inside : isNameChar c = true) : isPlain c = true := by
  rw [isPlain, Bool.and_eq_true, decide_eq_true_eq, Bool.not_eq_true', isOperator,
    decide_eq_false_iff_not]
  constructor <;>
  · intro member
    simp only [List.mem_cons, List.not_mem_nil, or_false] at member
    rcases member with rfl | rfl | rfl | rfl | rfl | rfl | rfl <;> exact absurd inside (by decide)

theorem IsName.run (isName : IsName name) : Transduce.run step .start (name ++ ['=']) =
    some (⟨.bare, some (quoted .bare (name ++ ['=']))⟩, []) := by
  obtain ⟨start, all⟩ := isName
  have chars := List.all_eq_true.mp all
  refine run_word (fun c member => ?_) (by simp) fun head => ?_
  · rcases List.mem_append.mp member with inside | last
    · exact isPlain_of_isNameChar (chars c inside)
    · rw [List.mem_singleton.mp last]
      decide
  · cases name with
    | nil => cases start
    | cons c name =>
      cases head
      cases start

theorem IsName.assigned (isName : IsName name) (pieces : List Piece) :
    assigned (quoted .bare (name ++ ['=']) ++ pieces) = some (name, pieces) := by
  have word : quoted .bare (name ++ ['=']) ++ pieces =
      quoted .bare name ++ .char '=' .bare :: pieces := by simp [quoted]
  have named : (following .bare (quoted .bare (name ++ ['=']) ++ pieces)).takeWhile isNameChar =
      name := by
    rw [following_quoted, List.append_assoc,
      List.takeWhile_append_of_pos (List.all_eq_true.mp isName.chars),
      List.singleton_append, List.takeWhile_cons_of_neg (by decide), List.append_nil]
  have length : name.length = (quoted .bare name).length := by simp [quoted]
  unfold Shell.assigned
  rw [named, word]
  simp only
  rw [length, ← List.drop_drop, List.drop_left, if_pos ⟨isName.start, rfl⟩]
  rfl

end Values

section Lines

variable {a b name value cs front : List Char} {pieces : List Piece}
  {sets others : List (List Char × List Piece)} {c : Char}

/-- What a part of a script assigns that begins and ends between its lines. -/
def Gives (script : List Char) (sets : List (List Char × List Piece)) : Prop :=
  ∃ ts, run step .start script = some (.start, ts) ∧ run statement .start ts = some (.start, sets)

theorem gives_nil : Gives [] [] := ⟨[], rfl, rfl⟩

theorem Gives.append (first : Gives a sets) (more : Gives b others) :
    Gives (a ++ b) (sets ++ others) := by
  obtain ⟨ts, reads, means⟩ := first
  obtain ⟨us, readsMore, meansMore⟩ := more
  refine ⟨ts ++ us, ?_, ?_⟩
  · rw [Transduce.run_append_of reads, readsMore]
    rfl
  · rw [Transduce.run_append_of means, meansMore]
    rfl

theorem Gives.statements (whole : Gives a sets) : statements a = some sets := by
  obtain ⟨ts, reads, means⟩ := whole
  have ends : ts ++ State.start.ended = ts := List.append_nil ts
  unfold Shell.statements tokens
  rw [reads, Option.bind_eq_bind, Option.bind_eq_bind, Option.bind_some, if_pos (.inl rfl),
    Option.bind_some, ends, means]
  rfl

theorem statement_assigned {w : List Piece} {value : List Char × List Piece}
    (assigns : assigned w = some value) :
    statement .start (.word w) = some (.done, [value]) := by
  simp [statement, assigns]

theorem gives_blank : Gives ['\n'] [] := ⟨[.newline], rfl, rfl⟩

theorem gives_comment (clean : ∀ c ∈ cs, c ≠ '\x00' ∧ c ≠ '\n') :
    Gives ('#' :: (cs ++ ['\n'])) [] := by
  have skips : run step ⟨.comment, none⟩ cs = some (⟨.comment, none⟩, []) := by
    induction cs with
    | nil => rfl
    | cons c cs ih =>
      obtain ⟨known, line⟩ := clean c List.mem_cons_self
      have one : step ⟨.comment, none⟩ c = some (⟨.comment, none⟩, []) := by
        simp [step, known, line]
      rw [Transduce.run_cons one, ih fun c member => clean c (List.mem_cons_of_mem _ member)]
      rfl
  have opens : step .start '#' = some (⟨.comment, none⟩, []) := rfl
  have ends : run step ⟨.comment, none⟩ ['\n'] = some (.start, [.newline]) := rfl
  refine ⟨[.newline], ?_, rfl⟩
  rw [Transduce.run_cons opens, Transduce.run_append_of skips, ends]
  rfl

theorem gives_assignment (isName : IsName name) (reads : Reads value pieces) :
    Gives (name ++ '=' :: (value ++ ['\n'])) [(name, pieces)] := by
  have line : name ++ '=' :: (value ++ ['\n']) = (name ++ ['=']) ++ (value ++ ['\n']) := by simp
  have ends (w : List Piece) : run step ⟨.bare, some w⟩ ['\n'] =
      some (.start, [.word w, .newline]) := rfl
  have first : statement .start (.word (quoted .bare (name ++ ['=']) ++ pieces)) =
      some (.done, [(name, pieces)]) := statement_assigned (isName.assigned pieces)
  have second : run statement .done [.newline] = some (.start, []) := rfl
  refine ⟨[.word (quoted .bare (name ++ ['=']) ++ pieces), .newline], ?_, ?_⟩
  · rw [line, Transduce.run_append_of isName.run, Transduce.run_append_of (reads _), ends]
    rfl
  · rw [Transduce.run_cons first, second]
    rfl

theorem statements_append (first : Gives a sets) :
    statements (a ++ b) = (sets ++ ·) <$> statements b := by
  obtain ⟨ts, reads, means⟩ := first
  unfold statements tokens
  rw [Transduce.run_append_of reads]
  cases run step .start b with
  | none => rfl
  | some read =>
    simp only [Option.map_some, Option.bind_eq_bind, Option.bind_some]
    split
    · rw [Option.bind_some, Option.bind_some, List.append_assoc, Transduce.run_append_of means]
      cases run statement .start (read.2 ++ read.1.ended) with
      | none => rfl
      | some found =>
        simp only [Option.map_some, Option.bind_some]
        split <;> rfl
    · rfl

/-- A script has no NUL. -/
theorem statements_nul (known : '\x00' ∈ cs) : statements cs = none := by
  unfold statements tokens
  rw [run_nul known]
  rfl

/-- An operator behind an assignment would be a command. -/
theorem statements_operator (isName : IsName name) (reads : Reads front pieces)
    (operator : isOperator c = true) (rest : List Char) :
    statements (name ++ '=' :: (front ++ c :: rest)) = none := by
  have line : name ++ '=' :: (front ++ c :: rest) = (name ++ ['=']) ++ (front ++ c :: rest) := by
    simp
  have one (w : List Piece) : step ⟨.bare, some w⟩ c =
      some (.start, [.word w, .operator c]) := by
    rw [step, if_neg (known_of_operator operator)]
    exact congrArg some (bareStep_operator operator _)
  have refused : ∀ more, run statement .start
      (.word (quoted .bare (name ++ ['=']) ++ pieces) :: .operator c :: more) = none := by
    intro more
    have first : statement .start (.word (quoted .bare (name ++ ['=']) ++ pieces)) =
        some (.done, [(name, pieces)]) := statement_assigned (isName.assigned pieces)
    rw [Transduce.run_cons first, Transduce.run_refused rfl]
    rfl
  unfold statements tokens
  rw [line, Transduce.run_append_of isName.run, Transduce.run_append_of (reads _),
    Transduce.run_cons (one _)]
  cases run step .start rest with
  | none => rfl
  | some read =>
    simp only [Option.map_some, Option.bind_eq_bind, Option.bind_some]
    split
    · have text : [] ++ ([] ++ ([.word (quoted .bare (name ++ ['=']) ++ pieces), .operator c] ++
          read.2)) ++ read.1.ended = .word (quoted .bare (name ++ ['=']) ++ pieces) ::
            .operator c :: (read.2 ++ read.1.ended) := rfl
      rw [Option.bind_some, text, refused]
      rfl
    · rfl

end Lines

section Evaluation

variable {host : Host} {script name cs : List Char} {pieces : List Piece}
  {sets before after : List (List Char × List Piece)} {values : List (List Char × List Char)}

/-- Pieces in which a shell expands nothing, whatever it knows. -/
def Fixed (pieces : List Piece) : Prop := ∀ host, expand host true true 0 pieces = some pieces

theorem fixed_bare (inert : Inert cs) (homeless : Homeless true true cs) :
    Fixed (quoted .bare cs) := by
  intro host
  have whole : expand host true true 0 (quoted .bare cs ++ []) = some (quoted .bare cs ++ []) :=
    expand_inert true (.inl rfl) closes_nil inert fun _ => homeless
  rwa [List.append_nil] at whole

/-- Between double quotes a text is fixed with what stands around it. -/
theorem fixed_around {lead : List Char} {tail : List Piece}
    (literal : ∀ c ∈ lead, c ≠ '$' ∧ c ≠ backtick) (closes : Closes .double tail)
    (inert : Inert cs) : Fixed (.mark :: (quoted .double lead ++ (quoted .double cs ++ tail))) := by
  intro host
  have whole : expand host true false 0 (quoted .double cs ++ tail) =
      some (quoted .double cs ++ tail) := expand_inert false (.inr rfl) closes inert (by simp)
  rw [expand, if_neg (by simp), expand_literal literal, whole]
  rfl

theorem fixed_double (inert : Inert cs) : Fixed (enclosed .double cs) := by
  have whole : Fixed (.mark :: (quoted .double [] ++ (quoted .double cs ++ [.mark]))) :=
    fixed_around (by simp) closes_mark inert
  exact whole

/-- Where expansions give nothing, a text between double quotes that keeps its length has none. -/
theorem around_odd {lead : List Char} {tail value : List Piece}
    (literal : ∀ c ∈ lead, c ≠ '$' ∧ c ≠ backtick) (closes : Closes .double tail)
    (known : expand .odd true true 0
      (.mark :: (quoted .double lead ++ (quoted .double cs ++ tail))) = some value) :
    ∃ front, text value = lead ++ (front ++ text tail) ∧ front.Sublist cs ∧
      (front.length = cs.length → front = cs ∧ Inert cs) := by
  rw [expand, if_neg (by simp), expand_literal literal] at known
  simp only [Option.map_eq_map, Option.map_map, Option.map_eq_some_iff, Function.comp] at known
  obtain ⟨rest, expands, rfl⟩ := known
  obtain ⟨front, rfl, less, whole⟩ := expand_odd (.inr rfl) closes (by simp) false expands
  refine ⟨text front, by simp [text], less, fun length => ?_⟩
  exact ⟨less.eq_of_length length, (whole length).2.1⟩

theorem fixed_single (cs : List Char) : Fixed (enclosed .single cs) := by
  intro host
  rw [enclosed, expand, if_neg (by simp), expand_single closes_mark]
  rfl

theorem evaluate_fixed (host : Host) (found : statements script = some sets)
    (fixed : ∀ s ∈ sets, Fixed s.2) :
    evaluate host script = some (sets.map fun s => (s.1, text s.2)) := by
  unfold evaluate
  rw [found, Option.bind_eq_bind, Option.bind_some]
  clear found
  induction sets with
  | nil => rfl
  | cons s sets ih =>
    rw [List.mapM_cons, fixed s List.mem_cons_self,
      ih fun s member => fixed s (List.mem_cons_of_mem _ member)]
    rfl

theorem lookup_last {before after : List (List Char × List Char)} {value : List Char}
    (fresh : ∀ v ∈ after, v.1 ≠ name) :
    (before ++ (name, value) :: after).reverse.lookup name = some value := by
  rw [List.lookup_eq_some_iff]
  refine ⟨after.reverse, before.reverse, by simp, fun v member => ?_⟩
  simpa using Ne.symm (fresh v (List.mem_reverse.mp member))

/-- The value of a variable that is not assigned again. -/
theorem lookup_evaluate (found : statements script = some (before ++ (name, pieces) :: after))
    (fresh : ∀ s ∈ after, s.1 ≠ name) (known : evaluate host script = some values) :
    ∃ value, expand host true true 0 pieces = some value ∧
      values.reverse.lookup name = some (text value) := by
  unfold evaluate at known
  rw [found, Option.bind_eq_bind, Option.bind_some, List.mapM_append] at known
  simp only [List.mapM_cons, Option.bind_eq_bind, Option.bind_eq_some_iff, Option.map_eq_some_iff,
    Option.pure_def, Option.some.injEq] at known
  obtain ⟨firsts, -, _, ⟨_, ⟨value, expands, rfl⟩, lasts, mapped, rfl⟩, rfl⟩ := known
  refine ⟨value, expands, lookup_last fun v member => ?_⟩
  have names : lasts.map Prod.fst = after.map Prod.fst := by
    clear found expands fresh member
    induction after generalizing lasts with
    | nil =>
      cases mapped
      rfl
    | cons s after ih =>
      simp only [List.mapM_cons, Option.bind_eq_bind, Option.bind_eq_some_iff,
        Option.map_eq_some_iff, Option.pure_def, Option.some.injEq] at mapped
      obtain ⟨_, ⟨_, -, rfl⟩, more, rest, rfl⟩ := mapped
      rw [List.map_cons, List.map_cons, ih more rest]
  have listed : v.1 ∈ after.map Prod.fst := by
    rw [← names]
    exact List.mem_map_of_mem member
  obtain ⟨s, inside, same⟩ := List.mem_map.mp listed
  rw [← same]
  exact fresh s inside

end Evaluation

end Shell
