set_option autoImplicit false

/- The string functions of the standard library that the configuration code
uses, over the characters of the string. -/
namespace Rathole

theorem forall_mem_of_all {p : Char → Prop} [DecidablePred p] {cs : List Char}
    (all : cs.all (fun c => p c) = true) : ∀ c ∈ cs, p c := by
  simpa using all

/-- `str::rsplit_once` on a single character. -/
def rsplitOnce (sep : Char) (s : String) : Option (String × String) :=
  if sep ∈ s.toList then
    let back := s.toList.reverse
    some (String.ofList ((back.dropWhile (· != sep)).drop 1).reverse,
      String.ofList (back.takeWhile (· != sep)).reverse)
  else none

def decimal (digits : List Char) : Nat :=
  digits.foldl (fun n c => 10 * n + (c.toNat - '0'.toNat)) 0

/-- `str::parse::<u16>`: an optional plus sign, at least one digit, no overflow. -/
def parseU16 (s : String) : Option Nat :=
  let digits := match s.toList with
    | '+' :: rest => rest
    | cs => cs
  if digits ≠ [] ∧ digits.all Char.isDigit ∧ decimal digits ≤ 65535 then
    some (decimal digits)
  else none

/-- `str::split_once` on a single character. -/
def splitOnce (sep : Char) (s : String) : Option (String × String) :=
  if sep ∈ s.toList then
    some (String.ofList (s.toList.takeWhile (· != sep)),
      String.ofList ((s.toList.dropWhile (· != sep)).drop 1))
  else none

def splitChars (sep : Char) : List Char → List (List Char)
  | [] => [[]]
  | c :: rest =>
    if c = sep then [] :: splitChars sep rest
    else
      match splitChars sep rest with
      | [] => [[c]]
      | part :: parts => (c :: part) :: parts

/-- `str::split` on a single character. -/
def splitAll (sep : Char) (s : String) : List String := (splitChars sep s.toList).map String.ofList

/-- `char::is_whitespace`, the property `White_Space` of Unicode. -/
def isWhitespace (c : Char) : Bool :=
  let n := c.toNat
  decide ((9 ≤ n ∧ n ≤ 13) ∨ n = 32 ∨ n = 0x85 ∨ n = 0xA0 ∨ n = 0x1680 ∨ (0x2000 ≤ n ∧ n ≤ 0x200A) ∨
    n = 0x2028 ∨ n = 0x2029 ∨ n = 0x202F ∨ n = 0x205F ∨ n = 0x3000)

/-- `str::trim`. -/
def trim (s : String) : String :=
  String.ofList ((s.toList.dropWhile isWhitespace).reverse.dropWhile isWhitespace).reverse

/-- `str::as_bytes`. -/
def asBytes (s : String) : List UInt8 := s.toUTF8.data.toList

theorem asBytes_injective {s t : String} (same : asBytes s = asBytes t) : s = t :=
  String.toByteArray_inj.mp (ByteArray.ext (Array.toList_inj.mp same))

example : rsplitOnce ':' "[::1]:80" = some ("[::1]", "80") := by decide
example : parseU16 "+0080" = some 80 := by decide
example : parseU16 "65536" = none := by decide
example : splitAll ';' "a;;b" = ["a", "", "b"] := by decide
example : splitOnce ':' "local: a:1" = some ("local", " a:1") := by decide
example : trim " a b " = "a b" := by decide

/-- A path or an argument of the operating system, which need not be UTF-8. `lossy` is what it
reads like when it is not. -/
inductive OsPath
  | utf8 (text : String)
  | other (lossy : String)
  deriving DecidableEq

def OsPath.toStr : OsPath → Option String
  | .utf8 text => some text
  | .other _ => none

/-- `display`, and `to_string_lossy`. -/
def OsPath.display : OsPath → String
  | .utf8 text => text
  | .other lossy => lossy

def OsPath.IsUtf8 (path : OsPath) : Prop := path.toStr.isSome = true

end Rathole
