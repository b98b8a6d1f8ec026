import Rathole.Shell

set_option autoImplicit false

/- The words of a command, and those of an argument that `eval` reads again. -/
namespace Shell

open Transduce (run)

section Evaluation

variable {host : Host} {cs ds y : List Char} {ts : List Token} {found : List (List (List Char))}

theorem tokens_append (reads : run step .start cs = some (.start, ts)) :
    tokens (cs ++ ds) = (ts ++ ·) <$> tokens ds := by
  unfold tokens
  rw [Transduce.run_append_of reads]
  cases run step .start ds with
  | none => rfl
  | some read =>
    simp only [Option.bind_eq_bind, Option.map_some, Option.bind_some]
    split <;> simp

/-- Whole words in front of a text. -/
theorem evalText_append (reads : run step .start cs = some (.start, ts))
    (means : ts.mapM (Token.words host) = some found) :
    evalText host (cs ++ ds) = (found.flatten ++ ·) <$> evalText host ds := by
  unfold evalText
  rw [tokens_append reads]
  cases tokens ds with
  | none => rfl
  | some rest =>
    simp only [Option.map_eq_map, Option.map_some, Option.bind_eq_bind, Option.bind_some,
      List.mapM_append, means]
    cases rest.mapM (Token.words host) <;> simp

theorem mapM_operator {c : Char} (member : .operator c ∈ ts) :
    ts.mapM (Token.words host) = none := by
  induction ts with
  | nil => cases member
  | cons t ts ih =>
    rw [List.mapM_cons]
    rcases List.mem_cons.mp member with rfl | member
    · rfl
    · cases Token.words host t with
      | none => rfl
      | some one => simp [ih member]

theorem evalText_unread (unread : run step .start cs = none) : evalText host (cs ++ ds) = none := by
  unfold evalText tokens
  rw [Transduce.run_append, unread]
  rfl

/-- A text with an operator that counts is no end of a simple command. -/
theorem evalText_operator {s : State} {out : List Token} {c : Char}
    (reads : run step .start cs = some (s, out)) (member : .operator c ∈ out) :
    evalText host (cs ++ ds) = none := by
  unfold evalText tokens
  rw [Transduce.run_append_of reads]
  cases run step s ds with
  | none => rfl
  | some rest =>
    simp only [Option.map_some, Option.bind_eq_bind, Option.bind_some]
    split
    · rw [Option.bind_some,
        mapM_operator (List.mem_append_left _ (List.mem_append_left _ member))]
      rfl
    · rfl

/-- Outside of quotes the text is one word that means itself. -/
structure BareWord (cs : List Char) : Prop where
  nonempty : cs ≠ []
  plain : ∀ c ∈ cs, isPlain c = true
  comment : cs.head? ≠ some '#'
  inert : Inert cs
  homeless : Homeless false true cs
  pattern : isPattern (cs.map some) = false

theorem evalText_word (plain : ∀ c ∈ cs, isPlain c = true) (nonempty : cs ≠ [])
    (comment : cs.head? ≠ some '#') : evalText host cs = words host (quoted .bare cs) := by
  unfold evalText tokens
  rw [run_word plain nonempty comment]
  simp only [Option.bind_eq_bind, Option.bind_some, true_or, if_true, State.ended,
    Option.toList_some, List.map_cons, List.map_nil, List.nil_append, List.mapM_cons, List.mapM_nil,
    Token.words]
  cases words host (quoted .bare cs) <;> simp

theorem allNames_bare (nonempty : cs ≠ []) :
    allNames host (quoted .bare cs) = names host (quoted .bare cs) := by
  cases cs with
  | nil => exact absurd rfl nonempty
  | cons c cs =>
    have whole : ∀ q ∈ Piece.char c .bare :: quoted .bare cs, ∀ c, q ≠ .char c .expanded := by
      intro q member d same
      subst same
      simp [quoted] at member
    rw [allNames, quoted_cons, fields_whole_none whole, List.flatMap_cons, List.flatMap_nil,
      List.append_nil]

theorem evalText_bareWord (word : BareWord cs) : evalText host cs = some [cs] := by
  have expanded : expand host false true 0 (quoted .bare cs ++ []) = some (quoted .bare cs ++ []) :=
    expand_inert true (.inl rfl) closes_nil word.inert fun _ => word.homeless
  rw [List.append_nil] at expanded
  have single : isPattern (shape (quoted .bare cs)) = false := by
    rw [shape_quoted (.inl rfl)]
    exact word.pattern
  rw [evalText_word word.plain word.nonempty word.comment, words, expanded, Option.map_some,
    allNames_bare word.nonempty, names_plain single, text_quoted]

/-- A text without blanks and quotes. -/
def isTight (c : Char) : Bool := c ∉ ['\'', '"', '\\', ' ', '\t', '\n']

theorem isPlain_of_tight {c : Char} (tight : isTight c = true) (special : isPlain c = false) :
    c = '\x00' ∨ isOperator c = true := by
  simp only [isPlain, Bool.and_eq_false_iff, decide_eq_false_iff_not, not_not,
    Bool.not_eq_false'] at special
  rcases special with listed | operator
  · simp only [isTight, decide_eq_true_eq] at tight
    rcases List.mem_cons.mp listed with known | inside
    · exact .inl known
    · exact absurd inside tight
  · exact .inr operator

/-- A text that is not plain has a first operator, or a NUL. -/
theorem special_split (tight : ∀ c ∈ cs, isTight c = true)
    (special : ¬ ∀ c ∈ cs, isPlain c = true) :
    ∃ front c more, cs = front ++ c :: more ∧ (∀ d ∈ front, isPlain d = true) ∧
      (c = '\x00' ∨ isOperator c = true) := by
  have split := List.takeWhile_append_dropWhile (p := isPlain) (l := cs)
  have front : ∀ c ∈ cs.takeWhile isPlain, isPlain c = true := fun c => List.mem_takeWhile_imp
  cases rest : cs.dropWhile isPlain with
  | nil => exact absurd (List.dropWhile_eq_nil_iff.mp rest) special
  | cons c more =>
    have nonempty : cs.dropWhile isPlain ≠ [] := by
      rw [rest]
      exact List.cons_ne_nil _ _
    have here : isPlain c = false := by
      have stops := List.head_dropWhile_not isPlain nonempty
      simpa [rest] using stops
    rw [rest] at split
    have member : c ∈ cs := by
      rw [← split]
      exact List.mem_append_right _ List.mem_cons_self
    exact ⟨_, c, more, split.symm, front, isPlain_of_tight (tight c member) here⟩

theorem evalText_special (tight : ∀ c ∈ cs, isTight c = true) (comment : cs.head? ≠ some '#')
    (special : ¬ ∀ c ∈ cs, isPlain c = true) : evalText host cs = none := by
  obtain ⟨front, c, more, rfl, plain, known⟩ := special_split tight special
  have begins : ∃ w, run step .start front = some (⟨.bare, w⟩, []) := by
    by_cases empty : front = []
    · rw [empty]
      exact ⟨none, rfl⟩
    · refine ⟨_, run_word plain empty fun head => comment ?_⟩
      rw [List.head?_append_of_ne_nil _ empty, head]
  obtain ⟨w, begins⟩ := begins
  rcases known with rfl | operator
  · have unread : run step .start (front ++ '\x00' :: more) = none := run_nul (by simp) _
    rw [← List.append_nil (front ++ '\x00' :: more)]
    exact evalText_unread unread
  · have one : step ⟨.bare, w⟩ c = some (.start, State.ended ⟨.bare, w⟩ ++ [.operator c]) := by
      rw [step, if_neg (known_of_operator operator)]
      exact congrArg some (bareStep_operator operator _)
    have reads : run step .start (front ++ [c]) =
        some (.start, State.ended ⟨.bare, w⟩ ++ [.operator c]) := by
      rw [Transduce.run_append_of begins, Transduce.run_cons one]
      simp
    rw [← List.singleton_append, ← List.append_assoc]
    exact evalText_operator (c := c) reads (by simp)

theorem run_comment (tight : ∀ c ∈ cs, isTight c = true) :
    run step ⟨.comment, none⟩ cs = none ∨
      run step ⟨.comment, none⟩ cs = some (⟨.comment, none⟩, []) := by
  induction cs with
  | nil => exact .inr rfl
  | cons c cs ih =>
    by_cases known : c = '\x00'
    · exact .inl (Transduce.run_refused (by rw [step, if_pos known]))
    · have line : c ≠ '\n' := by
        rintro rfl
        exact absurd (tight _ List.mem_cons_self) (by decide)
      have one : step ⟨.comment, none⟩ c = some (⟨.comment, none⟩, []) := by
        simp [step, known, line]
      rw [Transduce.run_cons one]
      rcases ih fun c member => tight c (List.mem_cons_of_mem _ member) with rest | rest
      · exact .inl (by rw [rest]; rfl)
      · exact .inr (by rw [rest]; rfl)

/-- A comment is no word. -/
theorem evalText_comment {ws : List (List Char)} (tight : ∀ c ∈ cs, isTight c = true)
    (known : evalText host ('#' :: cs) = some ws) : ws = [] := by
  have one : step .start '#' = some (⟨.comment, none⟩, []) := rfl
  rcases run_comment tight with unread | read
  · have none : evalText host ('#' :: cs ++ []) = none :=
      evalText_unread (by rw [Transduce.run_cons one, unread]; rfl)
    rw [List.append_nil, known] at none
    cases none
  · unfold evalText tokens at known
    rw [Transduce.run_cons one, read] at known
    cases known
    rfl

theorem reference_odd_value {quote : Quote} {ps : List Piece} {value : List Piece × Nat}
    (known : reference .odd quote ps = some value) : ∀ p ∈ value.1, p = .char '$' quote := by
  unfold reference at known
  split at known
  · cases known
    simp
  · split at known
    · cases known
    · split at known
      · simp only at known
        split at known
        · cases known
          simp [quoted, Host.odd]
        · cases known
      · split at known
        · cases known
          simp [quoted, Host.odd]
        · split at known <;> cases known <;> simp [quoted, Host.odd]

/-- Where expansions give nothing, a word only loses pieces. -/
theorem expand_odd_subset {assignment begins : Bool} {taken : Nat} {ps expanded : List Piece}
    (known : expand .odd assignment begins taken ps = some expanded) : expanded ⊆ ps := by
  induction ps generalizing begins taken expanded with
  | nil =>
    cases known
    exact List.Subset.refl _
  | cons p ps ih =>
    cases p with
    | mark =>
      rw [expand] at known
      split at known
      · exact List.subset_cons_of_subset _ (ih known)
      · rw [Option.map_eq_map, Option.map_eq_some_iff] at known
        obtain ⟨rest, rests, rfl⟩ := known
        exact List.cons_subset_cons _ (ih rests)
    | char c quote =>
      rw [expand] at known
      split at known
      · exact List.subset_cons_of_subset _ (ih known)
      · split at known
        · rw [Option.bind_eq_bind, Option.bind_eq_some_iff] at known
          obtain ⟨home, found, known⟩ := known
          rw [Option.map_eq_map, Option.map_eq_some_iff] at known
          obtain ⟨rest, rests, rfl⟩ := known
          have empty : home.1 = [] := by
            unfold homeOf at found
            split at found <;> cases found
            rfl
          rw [empty]
          exact List.subset_cons_of_subset _ (ih rests)
        · split at known
          · cases known
          · split at known
            · next sign =>
              rw [Option.bind_eq_bind, Option.bind_eq_some_iff] at known
              obtain ⟨value, found, known⟩ := known
              rw [Option.map_eq_map, Option.map_eq_some_iff] at known
              obtain ⟨rest, rests, rfl⟩ := known
              have same := reference_odd_value found
              rw [sign.2]
              refine List.append_subset.mpr ⟨fun p member => ?_,
                List.subset_cons_of_subset _ (ih rests)⟩
              rw [same p member]
              exact List.mem_cons_self
            · rw [Option.map_eq_map, Option.map_eq_some_iff] at known
              obtain ⟨rest, rests, rfl⟩ := known
              exact List.cons_subset_cons _ (ih rests)

/-- Where expansions give nothing, a word that keeps its length means itself. -/
theorem evalText_odd (tight : ∀ c ∈ cs, isTight c = true) (unquoted : '\'' ∉ y)
    (reads : evalText .odd cs = some [y]) :
    y.length ≤ cs.length ∧ (y.length = cs.length → y = cs ∧ BareWord cs) := by
  cases cs with
  | nil =>
    have empty : evalText .odd [] = some [] := rfl
    rw [empty] at reads
    cases reads
  | cons c cs =>
    have comment : (c :: cs).head? ≠ some '#' := by
      intro head
      cases head
      cases evalText_comment (fun c member => tight c (List.mem_cons_of_mem _ member)) reads
    by_cases plain : ∀ d ∈ c :: cs, isPlain d = true
    · rw [evalText_word plain (List.cons_ne_nil _ _) comment, words,
        Option.map_eq_some_iff] at reads
      obtain ⟨expanded, known, found⟩ := reads
      have subset := expand_odd_subset known
      rw [← List.append_nil (quoted .bare (c :: cs))] at known
      obtain ⟨front, rfl, less, whole⟩ :=
        expand_odd (.inl rfl) closes_nil (fun _ => rfl) true known
      rw [List.append_nil] at subset found
      have one : names .odd front = [y] := by
        cases front with
        | nil => cases found
        | cons p front =>
          have literal : ∀ q ∈ p :: front, ∀ d, q ≠ .char d .expanded := by
            intro q member d same
            have inside := subset member
            subst same
            simp [quoted] at inside
          rw [allNames, fields_whole_none literal, List.flatMap_cons, List.flatMap_nil,
            List.append_nil] at found
          exact found
      cases pattern : isPattern (shape front) with
      | true =>
        rw [names_odd pattern] at one
        cases one
        exact absurd (by decide) unquoted
      | false =>
        rw [names_plain pattern] at one
        cases one
        refine ⟨less.length_le, fun length => ?_⟩
        obtain ⟨rfl, inert, homeless⟩ := whole length
        refine ⟨text_quoted _ _, List.cons_ne_nil _ _, plain, comment, inert, homeless rfl, ?_⟩
        rwa [shape_quoted (.inl rfl)] at pattern
    · rw [evalText_special tight comment plain] at reads
      cases reads

end Evaluation

section Arguments

variable {host : Host} {cs y : List Char}

theorem isTight_of_isPlain {c : Char} (plain : isPlain c = true) : isTight c = true := by
  simp only [isPlain, Bool.and_eq_true, decide_eq_true_eq] at plain
  rw [isTight, decide_eq_true_eq]
  exact fun inside => plain.1 (List.mem_cons_of_mem _ inside)

theorem textFields_tight {f : List Char} (tight : ∀ c ∈ cs, isTight c = true) :
    textFields (some f) cs = [f ++ cs] := by
  induction cs generalizing f with
  | nil => simp [textFields]
  | cons c cs ih =>
    have here := tight c List.mem_cons_self
    have unblank : ¬ (c = ' ' ∨ c = '\t' ∨ c = '\n') := by
      rintro (rfl | rfl | rfl) <;> exact absurd here (by decide)
    rw [textFields, if_neg unblank, ih fun c member => tight c (List.mem_cons_of_mem _ member)]
    simp

/-- A text without blanks is one field. -/
theorem allNames_tight (tight : ∀ c ∈ cs, isTight c = true) (nonempty : cs ≠ []) :
    allNames host (quoted .expanded cs) = names host (quoted .expanded cs) := by
  cases cs with
  | nil => exact absurd rfl nonempty
  | cons c cs =>
    have here := tight c List.mem_cons_self
    have unblank : ¬ (c = ' ' ∨ c = '\t' ∨ c = '\n') := by
      rintro (rfl | rfl | rfl) <;> exact absurd here (by decide)
    have one : textFields none (c :: cs) = [c :: cs] := by
      rw [textFields, if_neg unblank,
        textFields_tight fun c member => tight c (List.mem_cons_of_mem _ member)]
      rfl
    rw [allNames_expanded, one, List.flatMap_cons, List.flatMap_nil, List.append_nil]

theorem evalWords_bareWord (word : BareWord cs) : evalWords host cs = some [cs] := by
  have tight : ∀ c ∈ cs, isTight c = true := fun c member =>
    isTight_of_isPlain (word.plain c member)
  have single : isPattern (shape (quoted .expanded cs)) = false := by
    rw [shape_quoted (.inr rfl)]
    exact word.pattern
  rw [evalWords, allNames_tight tight word.nonempty, names_plain single, text_quoted]
  exact evalText_bareWord word

theorem spaced_cons {name : List Char} {rest : List (List Char)} (more : rest ≠ []) :
    spaced (name :: rest) = name ++ ' ' :: spaced rest := by
  cases rest with
  | nil => exact absurd rfl more
  | cons _ _ => rfl

theorem textFields_append {f : List Char} (tight : ∀ c ∈ cs, isTight c = true) (ds : List Char) :
    textFields (some f) (cs ++ ' ' :: ds) = (f ++ cs) :: textFields none ds := by
  induction cs generalizing f with
  | nil => simp [textFields]
  | cons c cs ih =>
    have here := tight c List.mem_cons_self
    have unblank : ¬ (c = ' ' ∨ c = '\t' ∨ c = '\n') := by
      rintro (rfl | rfl | rfl) <;> exact absurd here (by decide)
    rw [List.cons_append, textFields, if_neg unblank,
      ih fun c member => tight c (List.mem_cons_of_mem _ member)]
    simp

/-- A word in front of other arguments is one of its own. -/
theorem evalWords_append (word : BareWord cs) (ds : List Char) :
    evalWords host (cs ++ ' ' :: ds) = (cs :: ·) <$> evalWords host ds := by
  have tight : ∀ c ∈ cs, isTight c = true := fun c member =>
    isTight_of_isPlain (word.plain c member)
  have split : textFields none (cs ++ ' ' :: ds) = cs :: textFields none ds := by
    cases nonempty : cs with
    | nil => exact absurd nonempty word.nonempty
    | cons c rest =>
      rw [nonempty] at tight
      have here := tight c List.mem_cons_self
      have unblank : ¬ (c = ' ' ∨ c = '\t' ∨ c = '\n') := by
        rintro (rfl | rfl | rfl) <;> exact absurd here (by decide)
      rw [List.cons_append, textFields, if_neg unblank,
        textFields_append fun c member => tight c (List.mem_cons_of_mem _ member)]
      rfl
  have single : names host (quoted .expanded cs) = [cs] := by
    rw [names_plain (by rw [shape_quoted (.inr rfl)]; exact word.pattern), text_quoted]
  have ends : step ⟨.bare, some (quoted .bare cs)⟩ ' ' =
      some (.start, [.word (quoted .bare cs)]) := rfl
  have reads : run step .start (cs ++ [' ']) = some (.start, [.word (quoted .bare cs)]) := by
    rw [Transduce.run_append_of (run_word word.plain word.nonempty word.comment),
      Transduce.run_cons ends]
    rfl
  have alone : evalText host cs = some [cs] := evalText_bareWord word
  have means : [Token.word (quoted .bare cs)].mapM (Token.words host) = some [[cs]] := by
    rw [evalText_word word.plain word.nonempty word.comment] at alone
    rw [List.mapM_cons, Token.words, alone]
    rfl
  rw [evalWords, evalWords, allNames_expanded, split, List.flatMap_cons, single,
    ← allNames_expanded, List.singleton_append]
  cases more : allNames host (quoted .expanded ds) with
  | nil => exact alone
  | cons name rest =>
    rw [spaced_cons (List.cons_ne_nil _ _), ← List.singleton_append, ← List.append_assoc,
      evalText_append reads means]
    rfl

/-- Where expansions give nothing, an argument without blanks that keeps its length means itself. -/
theorem evalWords_odd (tight : ∀ c ∈ cs, isTight c = true) (unquoted : '\'' ∉ y)
    (reads : evalWords .odd cs = some [y]) :
    y.length ≤ cs.length ∧ (y.length = cs.length → y = cs ∧ BareWord cs) := by
  by_cases empty : cs = []
  · subst empty
    cases reads
  · rw [evalWords, allNames_tight tight empty] at reads
    cases pattern : isPattern (shape (quoted .expanded cs)) with
    | true =>
      rw [names_odd pattern] at reads
      cases reads
    | false =>
      rw [names_plain pattern, text_quoted] at reads
      exact evalText_odd tight unquoted reads

/-- The text between two others when its fields are put together again: the blanks in front of
what follows become one space. -/
def squeeze (blank : Bool) : List Char → List Char
  | [] => if blank then [' '] else []
  | c :: cs =>
    if c = ' ' ∨ c = '\t' ∨ c = '\n' then squeeze true cs
    else (if blank then [' '] else []) ++ c :: squeeze false cs

theorem textFields_ne_nil (field : Option (List Char)) (cs : List Char) {last : Char}
    (ends : ¬ (last = ' ' ∨ last = '\t' ∨ last = '\n')) : textFields field (cs ++ [last]) ≠ [] := by
  induction cs generalizing field with
  | nil =>
    rw [List.nil_append, textFields, if_neg ends]
    simp [textFields]
  | cons c cs ih =>
    rw [List.cons_append, textFields]
    split
    · simp [ih none]
    · exact ih _

theorem spaced_textFields {last : Char} (ends : ¬ (last = ' ' ∨ last = '\t' ∨ last = '\n')) :
    (∀ f, spaced (textFields (some f) (cs ++ [last])) = f ++ squeeze false cs ++ [last]) ∧
      ' ' :: spaced (textFields none (cs ++ [last])) = squeeze true cs ++ [last] := by
  induction cs with
  | nil => simp [textFields, ends, spaced, squeeze]
  | cons c cs ih =>
    have nonempty := textFields_ne_nil none cs ends
    by_cases blank : c = ' ' ∨ c = '\t' ∨ c = '\n'
    · refine ⟨fun f => ?_, ?_⟩
      · rw [List.cons_append, textFields, if_pos blank, squeeze, if_pos blank, Option.toList_some,
          List.singleton_append, spaced_cons nonempty, ih.2, List.append_assoc]
      · rw [List.cons_append, textFields, if_pos blank, squeeze, if_pos blank]
        exact ih.2
    · refine ⟨fun f => ?_, ?_⟩
      · rw [List.cons_append, textFields, if_neg blank, squeeze, if_neg blank, ih.1]
        simp
      · rw [List.cons_append, textFields, if_neg blank, squeeze, if_neg blank, ih.1]
        simp

theorem squeeze_length (blank : Bool) (cs : List Char) :
    (squeeze blank cs).length ≤ (if blank then 1 else 0) + cs.length := by
  induction cs generalizing blank with
  | nil => cases blank <;> simp [squeeze]
  | cons c cs ih =>
    rw [squeeze]
    split
    · have := ih true
      simp only [if_true, List.length_cons] at this ⊢
      omega
    · have := ih false
      cases blank <;> simp at this ⊢ <;> omega

/-- A text in which single spaces are the only blanks. -/
structure Spaced (cs : List Char) : Prop where
  blank : '\t' ∉ cs ∧ '\n' ∉ cs
  single : cs.IsChain fun a b => a = ' ' → b ≠ ' '

theorem squeeze_blank (cs : List Char) : ∃ rest, squeeze true cs = ' ' :: rest := by
  induction cs with
  | nil => exact ⟨[], rfl⟩
  | cons c cs ih =>
    rw [squeeze]
    split
    · exact ih
    · exact ⟨_, rfl⟩

theorem spaced_other {c : Char} (other : ¬ (c = ' ' ∨ c = '\t' ∨ c = '\n')) :
    Spaced (c :: cs) ↔ Spaced cs := by
  rw [not_or, not_or] at other
  constructor
  · intro whole
    have blank := whole.blank
    simp only [List.mem_cons, not_or] at blank
    exact ⟨⟨blank.1.2, blank.2.2⟩, (List.isChain_cons.mp whole.single).2⟩
  · intro rest
    refine ⟨?_, List.isChain_cons.mpr ⟨fun d _ same => absurd same other.1, rest.single⟩⟩
    simp only [List.mem_cons, not_or]
    exact ⟨⟨Ne.symm other.2.1, rest.blank.1⟩, Ne.symm other.2.2, rest.blank.2⟩

theorem squeeze_eq_iff (cs : List Char) :
    (squeeze false cs = cs ↔ Spaced cs) ∧ (squeeze true cs = ' ' :: cs ↔ Spaced (' ' :: cs)) := by
  induction cs with
  | nil => exact ⟨iff_of_true rfl ⟨by simp, .nil⟩, iff_of_true rfl ⟨by decide, .singleton _⟩⟩
  | cons c cs ih =>
    rw [squeeze, squeeze]
    by_cases blank : c = ' ' ∨ c = '\t' ∨ c = '\n'
    · rw [if_pos blank, if_pos blank]
      constructor
      · rcases blank with rfl | other
        · exact ih.2
        · obtain ⟨rest, starts⟩ := squeeze_blank cs
          refine iff_of_false (fun same => ?_) fun whole => ?_
          · rw [starts] at same
            have first := (List.cons.inj same).1
            rcases other with rfl | rfl <;> cases first
          · rcases other with rfl | rfl
            · exact whole.blank.1 List.mem_cons_self
            · exact whole.blank.2 List.mem_cons_self
      · refine iff_of_false (fun same => ?_) fun whole => ?_
        · have short := squeeze_length true cs
          rw [same] at short
          simp at short
          omega
        · rcases blank with rfl | rfl | rfl
          · exact (List.isChain_cons_cons.mp whole.single).1 rfl rfl
          · exact whole.blank.1 (by simp)
          · exact whole.blank.2 (by simp)
    · rw [if_neg blank, if_neg blank]
      constructor
      · rw [spaced_other blank, ← ih.1]
        simp
      · have apart : Spaced (' ' :: c :: cs) ↔ Spaced (c :: cs) := by
          constructor
          · intro whole
            have clean := whole.blank
            simp only [List.mem_cons, not_or] at clean ⊢
            exact ⟨by simpa using ⟨clean.1.2, clean.2.2⟩, (List.isChain_cons.mp whole.single).2⟩
          · intro rest
            refine ⟨?_, List.isChain_cons_cons.mpr ⟨fun _ same => blank (.inl same), rest.single⟩⟩
            have clean := rest.blank
            simp only [List.mem_cons, not_or] at clean ⊢
            exact ⟨⟨by decide, clean.1⟩, by decide, clean.2⟩
        rw [apart, spaced_other blank, ← ih.1]
        simp

/-- A text that a single quote opens. -/
theorem run_open (unquoted : '\'' ∉ cs) :
    run step .start ('\'' :: cs) = none ∨
      run step .start ('\'' :: cs) =
        some (⟨.single, some (.mark :: quoted .single cs)⟩, []) := by
  have one : step .start '\'' = some (⟨.single, some [.mark]⟩, []) := rfl
  rw [Transduce.run_cons one]
  by_cases known : '\x00' ∈ cs
  · exact .inl (by rw [run_nul known]; rfl)
  · have plain : ∀ c ∈ cs, c ≠ '\x00' ∧ c ≠ '\'' := fun c member =>
      ⟨fun same => known (same ▸ member), fun same => unquoted (same ▸ member)⟩
    exact .inr (by rw [run_single plain]; rfl)

theorem isPattern_single (cs : List Char) :
    isPattern (shape (quoted .single cs ++ [.mark])) = false := by
  induction cs with
  | nil => rfl
  | cons c cs ih =>
    rw [quoted_cons, List.cons_append, shape, isPattern, ih]
    by_cases slash : c = '/'
    · subst slash
      rfl
    · simp [slash]

/-- What single quotes hold is one word. -/
theorem evalText_single (known : '\x00' ∉ cs) (unquoted : '\'' ∉ cs) :
    evalText host ('\'' :: (cs ++ ['\''])) = some [cs] := by
  have one : step .start '\'' = some (⟨.single, some [.mark]⟩, []) := rfl
  have last : step ⟨.single, some ([.mark] ++ quoted .single cs)⟩ '\'' =
      some (⟨.bare, some (.mark :: (quoted .single cs ++ [.mark]))⟩, []) := by
    simp [step, State.add]
  have plain : ∀ c ∈ cs, c ≠ '\x00' ∧ c ≠ '\'' := fun c member =>
    ⟨fun same => known (same ▸ member), fun same => unquoted (same ▸ member)⟩
  have reads : run step .start ('\'' :: (cs ++ ['\''])) =
      some (⟨.bare, some (.mark :: (quoted .single cs ++ [.mark]))⟩, []) := by
    rw [Transduce.run_cons one, Transduce.run_append_of (run_single plain),
      Transduce.run_cons last]
    rfl
  have expanded : expand host false true 0 (.mark :: (quoted .single cs ++ [.mark])) =
      some (.mark :: (quoted .single cs ++ [.mark])) := by
    rw [expand, if_neg (by simp), expand_single closes_mark]
    rfl
  have whole : ∀ q ∈ Piece.mark :: (quoted .single cs ++ [.mark]), ∀ c, q ≠ .char c .expanded := by
    intro q member d same
    subst same
    simp [quoted] at member
  have single : isPattern (shape (.mark :: (quoted .single cs ++ [.mark]))) = false :=
    isPattern_single cs
  have word : words host (.mark :: (quoted .single cs ++ [.mark])) = some [cs] := by
    rw [words, expanded, Option.map_some, allNames, fields_whole_none whole, List.flatMap_cons,
      List.flatMap_nil, List.append_nil, names_plain single]
    simp [text]
  unfold evalText tokens
  rw [reads]
  simp [State.ended, Token.words, word]

/-- A single quote stands open, or nothing does. -/
def Opened (front : List Char) : Prop :=
  front = [] ∨ ∃ inside, front = '\'' :: inside ∧ '\'' ∉ inside

/-- The odd name, where nothing or a single quote stands open, is an operator. -/
theorem evalText_odd_name {open_ : List Char}
    (opens : Opened open_) (more : List Char) :
    evalText host (open_ ++ ([';', '\'', ';'] ++ more)) = none := by
  rw [← List.append_assoc]
  rcases opens with rfl | ⟨inside, rfl, unquoted⟩
  · exact evalText_operator (c := ';') (show run step .start [';', '\'', ';'] = some _ from rfl)
      (by decide)
  · rcases run_open unquoted with unread | reads
    · exact evalText_unread (by rw [Transduce.run_append, unread]; rfl)
    · have ends : run step ⟨.single, some (.mark :: quoted .single inside)⟩ [';', '\'', ';'] =
          some (.start, [.word (.mark :: quoted .single inside ++ [.char ';' .single] ++ [.mark]),
            .operator ';']) := rfl
      refine evalText_operator (c := ';') (by rw [Transduce.run_append_of reads, ends]; rfl) ?_
      simp

/-- What is written in front of a field, and the field: a single quote is open in them. -/
def Open (front : List Char) (field : Option (List Char)) : Prop :=
  (front = [] ∧ ∃ f, field = some ('\'' :: f) ∧ '\'' ∉ f) ∨
    (∃ inside, front = '\'' :: inside ∧ '\'' ∉ inside) ∧ '\'' ∉ field.getD []

theorem Open.opened {front : List Char} {field : Option (List Char)} (opens : Open front field) :
    Opened front := by
  rcases opens with ⟨empty, -⟩ | ⟨open_, -⟩
  · exact .inl empty
  · exact .inr open_

theorem Open.add {front : List Char} {field : Option (List Char)} {c : Char}
    (opens : Open front field) (other : c ≠ '\'') :
    Open front (some (field.getD [] ++ [c])) := by
  rcases opens with ⟨empty, f, rfl, unquoted⟩ | ⟨open_, unquoted⟩
  · exact .inl ⟨empty, f ++ [c], rfl, by simpa [unquoted] using Ne.symm other⟩
  · exact .inr ⟨open_, by simpa [unquoted] using Ne.symm other⟩

theorem Open.close {front f : List Char} (opens : Open front (some f)) :
    Open (front ++ f ++ [' ']) none := by
  refine .inr ⟨?_, by simp⟩
  rcases opens with ⟨rfl, inside, same, unquoted⟩ | ⟨⟨inside, rfl, unquoted⟩, free⟩
  · cases same
    exact ⟨inside ++ [' '], rfl, by simpa using unquoted⟩
  · exact ⟨inside ++ f ++ [' '], by simp, by simpa using ⟨unquoted, free⟩⟩

/-- The names of fields on a host with odd names. -/
def oddNames (texts : List (List Char)) : List (List Char) :=
  texts.map fun f => if isPattern (f.map some) then [';', '\'', ';'] else f

theorem allNames_odd (cs : List Char) :
    allNames .odd (quoted .expanded cs) = oddNames (textFields none cs) := by
  have one : ∀ f, names .odd (quoted .expanded f) =
      [if isPattern (f.map some) then [';', '\'', ';'] else f] := by
    intro f
    cases pattern : isPattern (f.map some) with
    | true => exact names_odd (by rw [shape_quoted (.inr rfl), pattern])
    | false =>
      rw [names_plain (by rw [shape_quoted (.inr rfl), pattern]), text_quoted]
      rfl
  rw [allNames_expanded, oddNames]
  induction textFields none cs with
  | nil => rfl
  | cons f rest ih => rw [List.flatMap_cons, one, ih, List.map_cons, List.singleton_append]

theorem spaced_first (name : List Char) (rest : List (List Char)) :
    ∃ more, spaced (name :: rest) = name ++ more := by
  cases rest with
  | nil => exact ⟨[], (List.append_nil _).symm⟩
  | cons _ _ => exact ⟨_, rfl⟩

/-- A pattern that comes next is written behind what stands open. -/
theorem spaced_odd_first {front f : List Char} (opened : Opened front)
    (pattern : isPattern (f.map some) = true) (rest : List (List Char)) :
    ∃ open_ more, Opened open_ ∧
      front ++ spaced (oddNames (f :: rest)) = open_ ++ ([';', '\'', ';'] ++ more) := by
  obtain ⟨more, first⟩ := spaced_first [';', '\'', ';'] (oddNames rest)
  refine ⟨front, more, opened, ?_⟩
  rw [← first, oddNames, List.map_cons, if_pos pattern]
  rfl

/-- Among quoted fields the first pattern is written where a quote stands open, or nothing. -/
theorem spaced_odd {front : List Char} {field : Option (List Char)} (opens : Open front field)
    (unquoted : '\'' ∉ cs)
    (pattern : ∃ f ∈ textFields field (cs ++ ['\'']), isPattern (f.map some) = true) :
    ∃ open_ more, Opened open_ ∧
      front ++ spaced (oddNames (textFields field (cs ++ ['\'']))) =
        open_ ++ ([';', '\'', ';'] ++ more) := by
  induction cs generalizing front field with
  | nil =>
    have one : textFields field ([] ++ ['\'']) = [field.getD [] ++ ['\'']] := by
      simp [textFields]
    rw [one] at pattern ⊢
    obtain ⟨f, member, here⟩ := pattern
    rw [List.mem_singleton] at member
    subst member
    exact spaced_odd_first opens.opened here []
  | cons c cs ih =>
    rw [List.mem_cons, not_or] at unquoted
    rw [List.cons_append, textFields] at pattern ⊢
    split
    · next blank =>
      rw [if_pos blank] at pattern
      cases field with
      | none => exact ih opens unquoted.2 pattern
      | some f =>
        cases here : isPattern (f.map some) with
        | true => exact spaced_odd_first opens.opened here _
        | false =>
          have below : ∃ g ∈ textFields none (cs ++ ['\'']), isPattern (g.map some) = true := by
            obtain ⟨g, member, found⟩ := pattern
            rcases List.mem_cons.mp member with rfl | member
            · rw [here] at found
              cases found
            · exact ⟨g, member, found⟩
          obtain ⟨open_, more, opened, written⟩ := ih opens.close unquoted.2 below
          refine ⟨open_, more, opened, ?_⟩
          have nonempty : oddNames (textFields none (cs ++ ['\''])) ≠ [] := by
            rw [oddNames, Ne, List.map_eq_nil_iff]
            exact textFields_ne_nil none cs (by decide)
          rw [← written, Option.toList_some, List.singleton_append]
          have first : oddNames (f :: textFields none (cs ++ ['\''])) =
              f :: oddNames (textFields none (cs ++ ['\''])) := by
            rw [oddNames, List.map_cons, if_neg (by simp [here])]
            rfl
          rw [first, spaced_cons nonempty]
          simp
    · next other =>
      rw [if_neg other] at pattern
      exact ih (opens.add (Ne.symm unquoted.1)) unquoted.2 pattern

/-- No field of a text in quotes is a pattern. -/
def Unmatched (cs : List Char) : Prop :=
  ∀ f ∈ textFields (some ['\'']) (cs ++ ['\'']), isPattern (f.map some) = false

theorem squeeze_subset (blank : Bool) (cs : List Char) : squeeze blank cs ⊆ ' ' :: cs := by
  induction cs generalizing blank with
  | nil => cases blank <;> simp [squeeze]
  | cons c cs ih =>
    rw [squeeze]
    have below : ∀ blank, squeeze blank cs ⊆ ' ' :: c :: cs := by
      intro blank d member
      rcases List.mem_cons.mp (ih blank member) with rfl | inside
      · exact List.mem_cons_self
      · exact List.mem_cons_of_mem _ (List.mem_cons_of_mem _ inside)
    split
    · exact below true
    · cases blank <;> simpa using below false

theorem allNames_unmatched (host : Host) (unmatched : Unmatched cs) :
    spaced (allNames host (quoted .expanded ('\'' :: (cs ++ ['\''])))) =
      '\'' :: (squeeze false cs ++ ['\'']) := by
  have one : allNames host (quoted .expanded ('\'' :: (cs ++ ['\'']))) =
      textFields (some ['\'']) (cs ++ ['\'']) := by
    rw [allNames_expanded]
    show (textFields (some ['\'']) (cs ++ ['\''])).flatMap _ = _
    have each : ∀ f ∈ textFields (some ['\'']) (cs ++ ['\'']),
        names host (quoted .expanded f) = [f] := by
      intro f member
      rw [names_plain (by rw [shape_quoted (.inr rfl)]; exact unmatched f member), text_quoted]
    rw [List.flatMap_congr each]
    simp
  rw [one, (spaced_textFields (by decide)).1]
  rfl

/-- A quoted text whose fields are names and whose blanks are single spaces means itself. -/
theorem evalWords_quoted (known : '\x00' ∉ cs) (unquoted : '\'' ∉ cs)
    (unmatched : Unmatched cs) (single : Spaced cs) :
    evalWords host ('\'' :: (cs ++ ['\''])) = some [cs] := by
  rw [evalWords, allNames_unmatched host unmatched, (squeeze_eq_iff cs).1.mpr single]
  exact evalText_single known unquoted

/-- Where expansions give nothing, a quoted text has no patterns and loses blanks only. -/
theorem evalWords_quoted_odd (unquoted : '\'' ∉ cs)
    (reads : evalWords .odd ('\'' :: (cs ++ ['\''])) = some [y]) :
    Unmatched cs ∧ y = squeeze false cs ∧ '\x00' ∉ y := by
  have unmatched : Unmatched cs := by
    intro f member
    rw [Bool.eq_false_iff]
    intro pattern
    have opens : Open [] (some ['\'']) := .inl ⟨rfl, [], rfl, by simp⟩
    obtain ⟨open_, more, opened, written⟩ := spaced_odd opens unquoted ⟨f, member, pattern⟩
    rw [List.nil_append] at written
    rw [evalWords, allNames_odd] at reads
    have same : textFields none ('\'' :: (cs ++ ['\''])) =
        textFields (some ['\'']) (cs ++ ['\'']) := rfl
    rw [same, written, evalText_odd_name opened] at reads
    cases reads
  have free : '\'' ∉ squeeze false cs := by
    intro member
    rcases List.mem_cons.mp (squeeze_subset false cs member) with same | inside
    · exact absurd same (by decide)
    · exact unquoted inside
  rw [evalWords, allNames_unmatched _ unmatched] at reads
  by_cases known : '\x00' ∈ squeeze false cs
  · have unread : run step .start ('\'' :: squeeze false cs) = none :=
      run_nul (List.mem_cons_of_mem _ known) _
    have none : evalText .odd ('\'' :: squeeze false cs ++ ['\'']) = none :=
      evalText_unread unread
    rw [List.cons_append, reads] at none
    cases none
  · rw [evalText_single known free] at reads
    cases reads
    exact ⟨unmatched, rfl, known⟩

end Arguments

end Shell
