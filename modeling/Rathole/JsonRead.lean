import Rathole.Json

set_option autoImplicit false

/- The reader of JSON texts, and that it takes back what is rendered. Values are nested at most
127 deep. -/
namespace Json

def isBlank (c : Char) : Bool := c = ' ' ∨ c = '\n' ∨ c = '\t' ∨ c = '\r'

def skipBlanks (cs : List Char) : List Char := cs.dropWhile isBlank

def hexValue (c : Char) : Option Nat :=
  if '0' ≤ c ∧ c ≤ '9' then some (c.toNat - '0'.toNat)
  else if 'a' ≤ c ∧ c ≤ 'f' then some (c.toNat - 'a'.toNat + 10)
  else if 'A' ≤ c ∧ c ≤ 'F' then some (c.toNat - 'A'.toNat + 10)
  else none

def readHex : List Char → Option (Nat × List Char)
  | a :: b :: c :: d :: rest => do
    let a ← hexValue a
    let b ← hexValue b
    let c ← hexValue c
    let d ← hexValue d
    some (4096 * a + 256 * b + 16 * c + d, rest)
  | _ => none

/-- What stands behind `\u`: one code, or two that make a pair of surrogates. -/
def readUnicode (cs : List Char) : Option (Char × List Char) := do
  let (n, rest) ← readHex cs
  if 0xD800 ≤ n ∧ n < 0xDC00 then
    let (m, rest) ← if rest.take 2 = ['\\', 'u'] then readHex (rest.drop 2) else none
    if 0xDC00 ≤ m ∧ m < 0xE000 then
      some (Char.ofNat (0x10000 + (n - 0xD800) * 0x400 + (m - 0xDC00)), rest)
    else none
  else if 0xDC00 ≤ n ∧ n < 0xE000 then none
  else some (Char.ofNat n, rest)

/-- The characters that stand for another one behind a backslash. -/
def shortEscapes : List (Char × Char) :=
  [('"', '"'), ('\\', '\\'), ('/', '/'), ('b', Char.ofNat 8), ('f', Char.ofNat 12), ('n', '\n'),
    ('r', '\r'), ('t', '\t')]

def readEscape : List Char → Option (Char × List Char)
  | [] => none
  | c :: rest => if c = 'u' then readUnicode rest else (shortEscapes.lookup c).map (·, rest)

/-- The rest of a string, which a quote ends. -/
def readChars : Nat → List Char → Option (List Char × List Char)
  | 0, _ => none
  | _ + 1, [] => none
  | fuel + 1, c :: rest =>
    if c = '"' then some ([], rest)
    else if c = '\\' then do
      let (d, rest) ← readEscape rest
      let (ds, rest) ← readChars fuel rest
      some (d :: ds, rest)
    else if c.toNat < 32 then none
    else do
      let (ds, rest) ← readChars fuel rest
      some (c :: ds, rest)

def isNumberChar (c : Char) : Bool := c ∈ "+-.0123456789Ee".toList

def isDigits (cs : List Char) : Bool := cs ≠ [] ∧ cs.all Char.isDigit

def isExponent (cs : List Char) : Bool :=
  cs = [] ∨ (cs.head? = some 'e' ∨ cs.head? = some 'E') ∧
    isDigits (if cs.tail.head? = some '+' ∨ cs.tail.head? = some '-' then cs.tail.tail else cs.tail)

def isFraction (cs : List Char) : Bool :=
  if cs.head? = some '.' then
    isDigits (cs.tail.takeWhile Char.isDigit) ∧ isExponent (cs.tail.dropWhile Char.isDigit)
  else isExponent cs

/-- The grammar of numbers: no zero stands in front of other digits. -/
def isNumber (cs : List Char) : Bool :=
  let unsigned := if cs.head? = some '-' then cs.tail else cs
  let digits := unsigned.takeWhile Char.isDigit
  isDigits digits ∧ (digits.head? = some '0' → digits.length = 1) ∧
    isFraction (unsigned.dropWhile Char.isDigit)

theorem mem_of_isNumberChar {cs : List Char} :
    ∀ c ∈ cs.takeWhile isNumberChar, c ∈ "+-.0123456789Ee".toList := by
  intro c member
  have kept := List.all_takeWhile (p := isNumberChar) (l := cs)
  simpa [isNumberChar] using List.all_eq_true.mp kept c member

def readNumber (cs : List Char) : Option (Value × List Char) :=
  if isNumber (cs.takeWhile isNumberChar) then
    some (.number ⟨cs.takeWhile isNumberChar, mem_of_isNumberChar⟩, cs.dropWhile isNumberChar)
  else none

def readWord (word : List Char) (value : Value) (cs : List Char) : Option (Value × List Char) :=
  if word.isPrefixOf cs then some (value, cs.drop word.length) else none

/-- A value without others in it. -/
def readScalar (fuel : Nat) : List Char → Option (Value × List Char)
  | [] => none
  | c :: rest =>
    if c = '"' then (readChars fuel rest).map fun read => (.string (String.ofList read.1), read.2)
    else if c = 'n' then readWord "null".toList .null (c :: rest)
    else if c = 't' then readWord "true".toList (.bool true) (c :: rest)
    else if c = 'f' then readWord "false".toList (.bool false) (c :: rest)
    else readNumber (c :: rest)

section Containers

variable (read : List Char → Option (Value × List Char)) (chars : Nat)

/-- The items of an array, each of them followed by a comma or by the end. -/
def readItems : Nat → List Char → Option (List Value × List Char)
  | 0, _ => none
  | fuel + 1, cs => do
    let (v, rest) ← read cs
    match skipBlanks rest with
    | [] => none
    | c :: rest =>
      if c = ']' then some ([v], rest)
      else if c = ',' then do
        let (vs, rest) ← readItems fuel rest
        some (v :: vs, rest)
      else none

def readField (cs : List Char) : Option ((String × Value) × List Char) :=
  match skipBlanks cs with
  | [] => none
  | c :: rest =>
    if c = '"' then do
      let (key, rest) ← readChars chars rest
      match skipBlanks rest with
      | [] => none
      | c :: rest =>
        if c = ':' then do
          let (v, rest) ← read rest
          some ((String.ofList key, v), rest)
        else none
    else none

/-- The fields of an object. A key that is there twice is kept twice. -/
def readFields : Nat → List Char → Option (List (String × Value) × List Char)
  | 0, _ => none
  | fuel + 1, cs => do
    let (field, rest) ← readField read chars cs
    match skipBlanks rest with
    | [] => none
    | c :: rest =>
      if c = '}' then some ([field], rest)
      else if c = ',' then do
        let (fields, rest) ← readFields fuel rest
        some (field :: fields, rest)
      else none

def readArray (fuel : Nat) (cs : List Char) : Option (Value × List Char) :=
  if (skipBlanks cs).head? = some ']' then some (.array [], (skipBlanks cs).tail)
  else (readItems read fuel cs).map fun read => (.array read.1, read.2)

def readObject (fuel : Nat) (cs : List Char) : Option (Value × List Char) :=
  if (skipBlanks cs).head? = some '}' then some (.object [], (skipBlanks cs).tail)
  else (readFields read chars fuel cs).map fun read => (.object read.1, read.2)

end Containers

/-- A value that is nested no deeper than the first number. -/
def readValue (fuel : Nat) : Nat → List Char → Option (Value × List Char)
  | 0, cs => readScalar fuel (skipBlanks cs)
  | depth + 1, cs =>
    match skipBlanks cs with
    | [] => none
    | c :: rest =>
      if c = '[' then readArray (readValue fuel depth) fuel rest
      else if c = '{' then readObject (readValue fuel depth) fuel fuel rest
      else readScalar fuel (c :: rest)

def maxDepth : Nat := 127

/-- The value that a whole text denotes. -/
def parse (text : String) : Option Value :=
  match readValue text.toList.length maxDepth text.toList with
  | some (v, rest) => if skipBlanks rest = [] then some v else none
  | none => none

section Strings

theorem hexValue_hex {n : Nat} (small : n < 16) : hexValue (hex n) = some n := by
  have all : ∀ n < 16, hexValue (hex n) = some n := by decide
  exact all n small

theorem readHex_hex {c : Char} (control : c.toNat < 32) (rest : List Char) :
    readHex ('0' :: '0' :: hex (c.toNat / 16) :: hex (c.toNat % 16) :: rest) =
      some (c.toNat, rest) := by
  have zero : hexValue '0' = some 0 := by decide
  have high := hexValue_hex (n := c.toNat / 16) (by omega)
  have low := hexValue_hex (n := c.toNat % 16) (by omega)
  have whole : 16 * (c.toNat / 16) + c.toNat % 16 = c.toNat := by omega
  simp [readHex, zero, high, low, whole]

theorem readUnicode_control {c : Char} (control : c.toNat < 32) (rest : List Char) :
    readUnicode ('0' :: '0' :: hex (c.toNat / 16) :: hex (c.toNat % 16) :: rest) =
      some (c, rest) := by
  have notHigh : ¬(0xD800 ≤ c.toNat ∧ c.toNat < 0xDC00) := by omega
  have notLow : ¬(0xDC00 ≤ c.toNat ∧ c.toNat < 0xE000) := by omega
  simp [readUnicode, readHex_hex control, notHigh, notLow]

theorem readChars_slash (fuel : Nat) {cs rest : List Char} {c : Char}
    (escaped : readEscape cs = some (c, rest)) :
    readChars (fuel + 1) ('\\' :: cs) =
      (readChars fuel rest).map fun read => (c :: read.1, read.2) := by
  rw [readChars, if_neg (by decide), if_pos rfl, escaped]
  show (readChars fuel rest).bind (fun read => some (c :: read.1, read.2)) = _
  cases readChars fuel rest <;> rfl

theorem readChars_plain (fuel : Nat) {c : Char} (quote : c ≠ '"') (slash : c ≠ '\\')
    (control : ¬c.toNat < 32) (rest : List Char) :
    readChars (fuel + 1) (c :: rest) =
      (readChars fuel rest).map fun read => (c :: read.1, read.2) := by
  rw [readChars, if_neg quote, if_neg slash, if_neg control]
  cases readChars fuel rest <;> rfl

theorem readEscape_short {d c : Char} (other : d ≠ 'u') (found : shortEscapes.lookup d = some c)
    (rest : List Char) : readEscape (d :: rest) = some (c, rest) := by
  rw [readEscape, if_neg other, found]
  rfl

/-- One rendered character is read in one turn. -/
theorem readChars_escape (fuel : Nat) (c : Char) (rest : List Char) :
    readChars (fuel + 1) (escape c ++ rest) =
      (readChars fuel rest).map fun read => (c :: read.1, read.2) := by
  have ofCode : ∀ n, c.toNat = n → c = Char.ofNat n := by
    rintro n rfl
    exact (Char.ofNat_toNat c).symm
  unfold escape
  split_ifs with quote slash newline ret tab back feed control
  · exact readChars_slash fuel (readEscape_short (by decide) (by rw [quote]; rfl) rest)
  · exact readChars_slash fuel (readEscape_short (by decide) (by rw [slash]; rfl) rest)
  · exact readChars_slash fuel (readEscape_short (by decide) (by rw [newline]; rfl) rest)
  · exact readChars_slash fuel (readEscape_short (by decide) (by rw [ret]; rfl) rest)
  · exact readChars_slash fuel (readEscape_short (by decide) (by rw [tab]; rfl) rest)
  · exact readChars_slash fuel (readEscape_short (by decide) (by rw [ofCode 8 back]; rfl) rest)
  · exact readChars_slash fuel (readEscape_short (by decide) (by rw [ofCode 12 feed]; rfl) rest)
  · have code := readUnicode_control control rest
    exact readChars_slash fuel (by rw [← code]; rfl)
  · exact readChars_plain fuel quote slash control rest

theorem readChars_quote (cs : List Char) {fuel : Nat} (room : cs.length < fuel)
    (rest : List Char) :
    readChars fuel (cs.flatMap escape ++ '"' :: rest) = some (cs, rest) := by
  induction cs generalizing fuel with
  | nil =>
    obtain ⟨n, rfl⟩ : ∃ n, fuel = n + 1 := ⟨fuel - 1, by omega⟩
    rfl
  | cons c cs ih =>
    obtain ⟨n, rfl⟩ : ∃ n, fuel = n + 1 := ⟨fuel - 1, by omega⟩
    have later := ih (show cs.length < n by simpa using room)
    rw [List.flatMap_cons, List.append_assoc, readChars_escape, later]
    rfl

theorem length_le_escape (cs : List Char) : cs.length ≤ (cs.flatMap escape).length := by
  have one : ∀ c, 1 ≤ (escape c).length := by
    intro c
    unfold escape
    split_ifs <;> simp
  induction cs with
  | nil => exact Nat.le_refl 0
  | cons c cs ih =>
    have := one c
    simp only [List.flatMap_cons, List.length_append, List.length_cons]
    omega

end Strings

/-- A value that can be read back: its numbers are numbers, and it is nested at most so deep. -/
inductive Fits : Nat → Value → Prop
  | null (depth : Nat) : Fits depth .null
  | bool (depth : Nat) (b : Bool) : Fits depth (.bool b)
  | number (depth : Nat) (n : Number) (valid : isNumber n.text = true) : Fits depth (.number n)
  | string (depth : Nat) (s : String) : Fits depth (.string s)
  | array (depth : Nat) (items : List Value) (fits : ∀ v ∈ items, Fits depth v) :
    Fits (depth + 1) (.array items)
  | object (depth : Nat) (fields : List (String × Value))
    (fits : ∀ entry ∈ fields, Fits depth entry.2) : Fits (depth + 1) (.object fields)

/-- What follows does not make a number longer. -/
def Ends (rest : List Char) : Prop := ∀ c, rest.head? = some c → isNumberChar c = false

section Values

variable {rest : List Char}

theorem ends_nil : Ends [] := by
  rintro c ⟨⟩

theorem ends_cons {c : Char} (other : isNumberChar c = false) : Ends (c :: rest) := by
  rintro d same
  cases same
  exact other

theorem skipBlanks_cons {c : Char} (solid : isBlank c = false) :
    skipBlanks (c :: rest) = c :: rest := by
  simp [skipBlanks, solid]

theorem takeWhile_append_of_ends {cs : List Char} (all : ∀ c ∈ cs, isNumberChar c = true)
    (ends : Ends rest) :
    (cs ++ rest).takeWhile isNumberChar = cs ∧ (cs ++ rest).dropWhile isNumberChar = rest := by
  have stop : rest.takeWhile isNumberChar = [] ∧ rest.dropWhile isNumberChar = rest := by
    cases rest with
    | nil => exact ⟨rfl, rfl⟩
    | cons c rest =>
      have other := ends c rfl
      exact ⟨by simp [other], by simp [other]⟩
  rw [List.takeWhile_append_of_pos all, List.dropWhile_append_of_pos all, stop.1, stop.2]
  exact ⟨List.append_nil cs, rfl⟩

theorem readNumber_text {n : Number} (valid : isNumber n.text = true) (ends : Ends rest) :
    readNumber (n.text ++ rest) = some (.number n, rest) := by
  have all : ∀ c ∈ n.text, isNumberChar c = true := fun c member => by
    simpa [isNumberChar] using n.plain c member
  obtain ⟨taken, left⟩ := takeWhile_append_of_ends all ends
  unfold readNumber
  simp only [taken, left, valid, if_true]

/-- The first character of a number. -/
theorem head_of_isNumber {cs : List Char} (valid : isNumber cs = true) :
    ∃ c later, cs = c :: later ∧ (c = '-' ∨ c.isDigit = true) := by
  cases cs with
  | nil => exact absurd valid (by decide)
  | cons c later =>
    refine ⟨c, later, rfl, ?_⟩
    by_cases minus : c = '-'
    · exact .inl minus
    · right
      by_contra other
      simp [isNumber, isDigits, minus, other] at valid

theorem readWord_append (word : List Char) (v : Value) :
    readWord word v (word ++ rest) = some (v, rest) := by
  have starts : word.isPrefixOf (word ++ rest) = true := by
    rw [List.isPrefixOf_iff_prefix]
    exact List.prefix_append word rest
  rw [readWord, if_pos starts, List.drop_left]

/-- What is read off a value without others in it. -/
theorem readScalar_render {depth fuel : Nat} {v : Value} (fits : Fits depth v)
    (flat : ∀ items, v ≠ .array items) (plain : ∀ fields, v ≠ .object fields)
    (room : v.render.length ≤ fuel) (ends : Ends rest) :
    readScalar fuel (v.render ++ rest) = some (v, rest) := by
  cases fits with
  | null => exact readWord_append "null".toList .null
  | bool depth b =>
    cases b with
    | true => exact readWord_append "true".toList (.bool true)
    | false => exact readWord_append "false".toList (.bool false)
  | number depth n valid =>
    obtain ⟨c, later, text, first⟩ := head_of_isNumber valid
    have read := readNumber_text valid ends
    have notWord : c ≠ '"' ∧ c ≠ 'n' ∧ c ≠ 't' ∧ c ≠ 'f' := by
      refine ⟨?_, ?_, ?_, ?_⟩ <;> rintro rfl <;> exact absurd first (by decide)
    obtain ⟨h₁, h₂, h₃, h₄⟩ := notWord
    rw [Value.render, text, List.cons_append, readScalar, if_neg h₁, if_neg h₂, if_neg h₃,
      if_neg h₄, ← List.cons_append, ← text]
    exact read
  | string depth s =>
    have longer := length_le_escape s.toList
    have enough : s.toList.length < fuel := by
      simp only [Value.render, quote, List.length_cons, List.length_append] at room
      omega
    have read := readChars_quote s.toList enough rest
    simp only [Value.render, quote, List.cons_append, List.append_assoc, List.nil_append]
    rw [readScalar, if_pos rfl, read, Option.map_some, String.ofList_toList]
  | array depth items => exact absurd rfl (flat items)
  | object depth fields => exact absurd rfl (plain fields)

/-- The text of a value begins with a character that tells its kind. -/
theorem render_head {depth : Nat} {v : Value} (fits : Fits depth v) :
    ∃ c later, v.render = c :: later ∧ isBlank c = false ∧ c ≠ ']' ∧
      (c = '[' → ∃ items, v = .array items) ∧ (c = '{' → ∃ fields, v = .object fields) := by
  cases fits with
  | null =>
    exact ⟨'n', _, rfl, by decide, by decide, (absurd · (by decide)), (absurd · (by decide))⟩
  | bool depth b =>
    cases b with
    | true =>
      exact ⟨'t', _, rfl, by decide, by decide, (absurd · (by decide)), (absurd · (by decide))⟩
    | false =>
      exact ⟨'f', _, rfl, by decide, by decide, (absurd · (by decide)), (absurd · (by decide))⟩
  | number depth n valid =>
    obtain ⟨c, later, text, first⟩ := head_of_isNumber valid
    refine ⟨c, later, by rw [Value.render, text], ?_, ?_, ?_, ?_⟩
    · rw [isBlank, decide_eq_false_iff_not]
      rintro (rfl | rfl | rfl | rfl) <;> exact absurd first (by decide)
    all_goals
      rintro rfl
      exact absurd first (by decide)
  | string depth s =>
    exact ⟨'"', _, rfl, by decide, by decide, (absurd · (by decide)), (absurd · (by decide))⟩
  | array depth items =>
    exact ⟨'[', _, rfl, by decide, by decide, fun _ => ⟨items, rfl⟩, (absurd · (by decide))⟩
  | object depth fields =>
    exact ⟨'{', _, rfl, by decide, by decide, (absurd · (by decide)), fun _ => ⟨fields, rfl⟩⟩

/-- The reader takes a rendered value off a text. -/
def Takes (read : List Char → Option (Value × List Char)) (v : Value) : Prop :=
  ∀ rest, Ends rest → read (v.render ++ rest) = some (v, rest)

variable {read : List Char → Option (Value × List Char)}

theorem readItems_render {items : List Value} (some_ : items ≠ [])
    (takes : ∀ v ∈ items, Takes read v) {fuel : Nat} (room : items.length ≤ fuel) :
    readItems read fuel (renderItems items ++ ']' :: rest) = some (items, rest) := by
  induction items generalizing fuel with
  | nil => exact absurd rfl some_
  | cons v others ih =>
    obtain ⟨n, rfl⟩ : ∃ n, fuel = n + 1 := ⟨fuel - 1, by simp at room; omega⟩
    have first := takes v List.mem_cons_self
    cases others with
    | nil =>
      have taken := first (']' :: rest) (ends_cons (by decide))
      rw [renderItems, readItems, taken]
      rfl
    | cons w later =>
      have taken := first (',' :: (renderItems (w :: later) ++ ']' :: rest)) (ends_cons (by decide))
      have behind := ih (List.cons_ne_nil w later)
        (fun u member => takes u (List.mem_cons_of_mem v member))
        (show (w :: later).length ≤ n by simpa using room)
      rw [renderItems, List.append_assoc, List.cons_append, readItems, taken]
      show (readItems read n (renderItems (w :: later) ++ ']' :: rest)).bind _ = _
      rw [behind]
      rfl

theorem readField_render {chars : Nat} {key : String} {v : Value}
    (room : (quote key).length ≤ chars) (takes : Takes read v) (ends : Ends rest) :
    readField read chars (quote key ++ ':' :: (v.render ++ rest)) = some ((key, v), rest) := by
  have longer := length_le_escape key.toList
  have enough : key.toList.length < chars := by
    simp only [quote, List.length_cons, List.length_append] at room
    omega
  have name := readChars_quote key.toList enough (':' :: (v.render ++ rest))
  simp only [quote, List.cons_append, List.append_assoc, List.nil_append]
  rw [readField, skipBlanks_cons (by decide)]
  show (if '"' = '"' then (readChars chars _).bind _ else none) = _
  rw [if_pos rfl, name]
  show (match skipBlanks (':' :: (v.render ++ rest)) with | [] => none | c :: rest => _) = _
  rw [skipBlanks_cons (by decide)]
  show (if ':' = ':' then (read (v.render ++ rest)).bind _ else none) = _
  rw [if_pos rfl, takes rest ends]
  show some ((String.ofList key.toList, v), rest) = _
  rw [String.ofList_toList]

theorem readFields_render {chars : Nat} {fields : List (String × Value)} (some_ : fields ≠ [])
    (keys : ∀ entry ∈ fields, (quote entry.1).length ≤ chars)
    (takes : ∀ entry ∈ fields, Takes read entry.2) {fuel : Nat} (room : fields.length ≤ fuel) :
    readFields read chars fuel (renderFields fields ++ '}' :: rest) = some (fields, rest) := by
  induction fields generalizing fuel with
  | nil => exact absurd rfl some_
  | cons entry others ih =>
    obtain ⟨n, rfl⟩ : ∃ n, fuel = n + 1 := ⟨fuel - 1, by simp at room; omega⟩
    obtain ⟨key, v⟩ := entry
    have width := keys (key, v) List.mem_cons_self
    have first := takes (key, v) List.mem_cons_self
    cases others with
    | nil =>
      have taken := readField_render width first
        (show Ends ('}' :: rest) from ends_cons (by decide))
      rw [renderFields, List.append_assoc, List.cons_append, readFields, taken]
      rfl
    | cons w later =>
      have taken := readField_render width first
        (show Ends (',' :: (renderFields (w :: later) ++ '}' :: rest)) from ends_cons (by decide))
      have behind := ih (List.cons_ne_nil w later)
        (fun e member => keys e (List.mem_cons_of_mem _ member))
        (fun e member => takes e (List.mem_cons_of_mem _ member))
        (show (w :: later).length ≤ n by simpa using room)
      simp only [renderFields, List.append_assoc, List.cons_append] at taken ⊢
      rw [readFields, taken]
      show (readFields read chars n (renderFields (w :: later) ++ '}' :: rest)).bind _ = _
      rw [behind]
      rfl

theorem length_renderItems (items : List Value) (texts : ∀ v ∈ items, v.render ≠ []) :
    items.length ≤ (renderItems items).length ∧
      ∀ v ∈ items, v.render.length ≤ (renderItems items).length := by
  induction items with
  | nil => exact ⟨Nat.le_refl 0, fun v member => absurd member List.not_mem_nil⟩
  | cons v others ih =>
    have first := List.length_pos_iff.mpr (texts v List.mem_cons_self)
    obtain ⟨count, each⟩ := ih fun w member => texts w (List.mem_cons_of_mem v member)
    cases others with
    | nil =>
      refine ⟨first, fun w member => ?_⟩
      rw [List.mem_singleton.mp member]
      exact Nat.le_refl _
    | cons w later =>
      have whole : (renderItems (v :: w :: later)).length =
          v.render.length + 1 + (renderItems (w :: later)).length := by
        simp [renderItems]
        omega
      refine ⟨by rw [List.length_cons]; omega, fun u member => ?_⟩
      rcases List.mem_cons.mp member with rfl | member
      · omega
      · have := each u member
        omega

theorem length_renderFields (fields : List (String × Value)) :
    fields.length ≤ (renderFields fields).length ∧
      ∀ entry ∈ fields, (quote entry.1).length ≤ (renderFields fields).length ∧
        entry.2.render.length ≤ (renderFields fields).length := by
  induction fields with
  | nil => exact ⟨Nat.le_refl 0, fun v member => absurd member List.not_mem_nil⟩
  | cons entry others ih =>
    obtain ⟨count, each⟩ := ih
    obtain ⟨key, v⟩ := entry
    cases others with
    | nil =>
      have whole : (renderFields [(key, v)]).length =
          (quote key).length + 1 + v.render.length := by
        simp [renderFields]
        omega
      refine ⟨by rw [List.length_singleton]; omega, fun e member => ?_⟩
      rw [List.mem_singleton.mp member]
      exact ⟨by dsimp only; omega, by dsimp only; omega⟩
    | cons w later =>
      have whole : (renderFields ((key, v) :: w :: later)).length =
          (quote key).length + 1 + v.render.length + 1 + (renderFields (w :: later)).length := by
        simp [renderFields]
        omega
      refine ⟨by rw [List.length_cons]; omega, fun e member => ?_⟩
      rcases List.mem_cons.mp member with rfl | member
      · exact ⟨by dsimp only; omega, by dsimp only; omega⟩
      · obtain ⟨name, value⟩ := each e member
        exact ⟨by omega, by omega⟩

theorem readValue_scalar {depth fuel : Nat} {v : Value} (fits : Fits depth v)
    (flat : ∀ items, v ≠ .array items) (plain : ∀ fields, v ≠ .object fields)
    (room : v.render.length ≤ fuel) : Takes (readValue fuel depth) v := by
  intro rest ends
  obtain ⟨c, later, text, solid, -, array, object⟩ := render_head fits
  have read := readScalar_render fits flat plain room ends
  have notArray : c ≠ '[' := fun same => (array same).elim flat
  have notObject : c ≠ '{' := fun same => (object same).elim plain
  rw [text, List.cons_append] at read ⊢
  cases depth with
  | zero => rw [readValue, skipBlanks_cons solid, read]
  | succ depth =>
    rw [readValue, skipBlanks_cons solid]
    show (if c = '[' then _ else if c = '{' then _ else readScalar fuel _) = _
    rw [if_neg notArray, if_neg notObject, read]

/-- The reader takes back what is rendered. -/
theorem readValue_render {depth : Nat} {v : Value} (fits : Fits depth v) {fuel : Nat}
    (room : v.render.length ≤ fuel) : Takes (readValue fuel depth) v := by
  induction fits with
  | null depth =>
    exact readValue_scalar (.null depth) (by rintro _ ⟨⟩) (by rintro _ ⟨⟩) room
  | bool depth b =>
    exact readValue_scalar (.bool depth b) (by rintro _ ⟨⟩) (by rintro _ ⟨⟩) room
  | number depth n valid =>
    exact readValue_scalar (.number depth n valid) (by rintro _ ⟨⟩) (by rintro _ ⟨⟩) room
  | string depth s =>
    exact readValue_scalar (.string depth s) (by rintro _ ⟨⟩) (by rintro _ ⟨⟩) room
  | array depth items fits ih =>
    intro rest ends
    have texts : ∀ v ∈ items, v.render ≠ [] := fun v member => by
      obtain ⟨c, later, text, -⟩ := render_head (fits v member)
      rw [text]
      exact List.cons_ne_nil c later
    obtain ⟨count, each⟩ := length_renderItems items texts
    simp only [Value.render, List.length_cons, List.length_append] at room
    simp only [Value.render, List.cons_append, List.append_assoc, List.nil_append]
    rw [readValue, skipBlanks_cons (by decide)]
    show readArray (readValue fuel depth) fuel (renderItems items ++ ']' :: rest) = _
    cases items with
    | nil => rfl
    | cons v others =>
      obtain ⟨c, later, text, solid, other, -⟩ := render_head (fits v List.mem_cons_self)
      have first : ∃ behind, renderItems (v :: others) = c :: behind := by
        cases others with
        | nil => exact ⟨later, text⟩
        | cons w more =>
          exact ⟨later ++ ',' :: renderItems (w :: more), by simp [renderItems, text]⟩
      obtain ⟨behind, begins⟩ := first
      have read : readItems (readValue fuel depth) fuel (renderItems (v :: others) ++ ']' :: rest) =
          some (v :: others, rest) :=
        readItems_render (List.cons_ne_nil v others)
          (fun w member => ih w member (by have := each w member; omega)) (by omega)
      have open_ : (skipBlanks (renderItems (v :: others) ++ ']' :: rest)).head? ≠ some ']' := by
        rw [begins, List.cons_append, skipBlanks_cons solid]
        exact fun same => other (Option.some.inj same)
      rw [readArray, if_neg open_, read]
      rfl
  | object depth fields fits ih =>
    intro rest ends
    obtain ⟨count, each⟩ := length_renderFields fields
    simp only [Value.render, List.length_cons, List.length_append] at room
    simp only [Value.render, List.cons_append, List.append_assoc, List.nil_append]
    rw [readValue, skipBlanks_cons (by decide)]
    show readObject (readValue fuel depth) fuel fuel (renderFields fields ++ '}' :: rest) = _
    cases fields with
    | nil => rfl
    | cons entry others =>
      obtain ⟨behind, begins⟩ : ∃ behind, renderFields (entry :: others) = '"' :: behind := by
        obtain ⟨key, v⟩ := entry
        cases others with
        | nil => exact ⟨_, rfl⟩
        | cons w more => exact ⟨_, rfl⟩
      have read : readFields (readValue fuel depth) fuel fuel
          (renderFields (entry :: others) ++ '}' :: rest) = some (entry :: others, rest) :=
        readFields_render (List.cons_ne_nil entry others)
          (fun e member => by have := each e member; omega)
          (fun e member => ih e member (by have := each e member; omega)) (by omega)
      have open_ :
          (skipBlanks (renderFields (entry :: others) ++ '}' :: rest)).head? ≠ some '}' := by
        rw [begins, List.cons_append, skipBlanks_cons (by decide)]
        exact fun same => absurd (Option.some.inj same) (by decide)
      rw [readObject, if_neg open_, read]
      rfl

/-- Whoever reads the text of a value has the value. -/
theorem parse_text {v : Value} (fits : Fits maxDepth v) : parse v.text = some v := by
  have text : v.text.toList = v.render := String.toList_ofList
  have read := readValue_render fits (Nat.le_refl v.render.length) [] ends_nil
  rw [List.append_nil] at read
  rw [parse, text, read]
  rfl

end Values

example : (parse " \x7b\"a\" : [1, -2.5e3, \"\\u00e9\\ud83d\\ude00\"]\x7d").map Value.text =
    some "\x7b\"a\":[1,-2.5e3,\"é😀\"]\x7d" := by decide +kernel
example : (parse "[01]").isNone = true := by decide +kernel
example : (parse "\"\\ud83d\"").isNone = true := by decide +kernel

end Json
