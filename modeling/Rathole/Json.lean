import Mathlib.Data.List.Basic

set_option autoImplicit false

/- JSON values and their text without blanks, which stands on one line. -/
namespace Json

/-- The text of a number. -/
structure Number where
  text : List Char
  plain : ∀ c ∈ text, c ∈ "+-.0123456789Ee".toList

inductive Value
  | null
  | bool (b : Bool)
  | number (n : Number)
  | string (s : String)
  | array (items : List Value)
  | object (fields : List (String × Value))

def hex (n : Nat) : Char := "0123456789abcdef".toList.getD n '0'

def escape (c : Char) : List Char :=
  if c = '"' then ['\\', '"']
  else if c = '\\' then ['\\', '\\']
  else if c = '\n' then ['\\', 'n']
  else if c = '\r' then ['\\', 'r']
  else if c = '\t' then ['\\', 't']
  else if c.toNat = 8 then ['\\', 'b']
  else if c.toNat = 12 then ['\\', 'f']
  else if c.toNat < 32 then ['\\', 'u', '0', '0', hex (c.toNat / 16), hex (c.toNat % 16)]
  else [c]

def quote (s : String) : List Char := '"' :: s.toList.flatMap escape ++ ['"']

mutual

def Value.render : Value → List Char
  | .null => "null".toList
  | .bool b => (if b then "true" else "false").toList
  | .number n => n.text
  | .string s => quote s
  | .array items => '[' :: renderItems items ++ [']']
  | .object fields => '{' :: renderFields fields ++ ['}']

def renderItems : List Value → List Char
  | [] => []
  | [v] => v.render
  | v :: w :: rest => v.render ++ ',' :: renderItems (w :: rest)

def renderFields : List (String × Value) → List Char
  | [] => []
  | [(key, v)] => quote key ++ ':' :: v.render
  | (key, v) :: e :: rest => quote key ++ ':' :: v.render ++ ',' :: renderFields (e :: rest)

end

def Value.text (v : Value) : String := String.ofList v.render

theorem newline_notMem_hex (n : Nat) : hex n ≠ '\n' := by
  have all : '\n' ∉ "0123456789abcdef".toList := by decide
  unfold hex
  rw [List.getD_eq_getElem?_getD]
  cases found : "0123456789abcdef".toList[n]? with
  | none => decide
  | some c =>
    rintro rfl
    exact all (List.mem_of_getElem? found)

theorem newline_notMem_escape (c : Char) : '\n' ∉ escape c := by
  unfold escape
  split_ifs with h₁ h₂ h₃
  all_goals try decide
  · intro member
    simp only [List.mem_cons, List.not_mem_nil, or_false] at member
    rcases member with h | h | h | h | h | h
    · exact absurd h (by decide)
    · exact absurd h (by decide)
    · exact absurd h (by decide)
    · exact absurd h (by decide)
    · exact newline_notMem_hex _ h.symm
    · exact newline_notMem_hex _ h.symm
  · intro member
    rw [List.mem_singleton] at member
    exact h₃ member.symm

theorem newline_notMem_quote (s : String) : '\n' ∉ quote s := by
  intro member
  rcases List.mem_append.mp member with inside | last
  · rcases List.mem_cons.mp inside with first | inside
    · exact absurd first (by decide)
    · obtain ⟨c, -, here⟩ := List.mem_flatMap.mp inside
      exact newline_notMem_escape c here
  · exact absurd (List.mem_singleton.mp last) (by decide)

mutual

theorem newline_notMem_render (v : Value) : '\n' ∉ v.render := by
  cases v with
  | null => decide
  | bool b => cases b <;> decide
  | number n =>
    intro member
    exact absurd (n.plain _ member) (by decide)
  | string s => exact newline_notMem_quote s
  | array items =>
    have rest := newline_notMem_renderItems items
    simp [Value.render, rest]
  | object fields =>
    have rest := newline_notMem_renderFields fields
    simp [Value.render, rest]

theorem newline_notMem_renderItems (items : List Value) : '\n' ∉ renderItems items := by
  match items with
  | [] => exact List.not_mem_nil
  | [v] => exact newline_notMem_render v
  | v :: w :: rest =>
    have first := newline_notMem_render v
    have others := newline_notMem_renderItems (w :: rest)
    simp [renderItems, first, others]

theorem newline_notMem_renderFields (fields : List (String × Value)) :
    '\n' ∉ renderFields fields := by
  match fields with
  | [] => exact List.not_mem_nil
  | [(key, v)] =>
    have name := newline_notMem_quote key
    have first := newline_notMem_render v
    simp [renderFields, name, first]
  | (key, v) :: e :: rest =>
    have name := newline_notMem_quote key
    have first := newline_notMem_render v
    have others := newline_notMem_renderFields (e :: rest)
    simp [renderFields, name, first, others]

end

/-- The lines of a text. -/
def linesOf (text : String) : List String := (text.toList.splitOn '\n').map String.ofList

/-- The text of a value is one line. -/
theorem linesOf_text (v : Value) : linesOf v.text = [v.text] := by
  unfold linesOf Value.text
  rw [String.toList_ofList, List.splitOn_eq_singleton (newline_notMem_render v)]
  rfl

end Json
