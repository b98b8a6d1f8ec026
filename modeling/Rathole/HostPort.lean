import Rathole.Text

set_option autoImplicit false

/- The addresses that the commands accept: the parser of socket addresses of the standard
library, and host names with a port. Each reader answers with what is left behind it. -/
namespace Rathole

namespace HostPort

def digitOf (c : Char) : Nat :=
  if c.isDigit then c.toNat - '0'.toNat
  else if 'a' ≤ c ∧ c ≤ 'f' then c.toNat - 'a'.toNat + 10
  else if 'A' ≤ c ∧ c ≤ 'F' then c.toNat - 'A'.toNat + 10
  else 16

/-- A number below `bound`, of any number of digits when `maxDigits` is `none`. -/
def readNumber (radix bound : Nat) (maxDigits : Option Nat) (allowZeroPrefix : Bool)
    (cs : List Char) : Option (List Char) :=
  let digits := cs.takeWhile fun c => digitOf c < radix
  let value := digits.foldl (fun n c => radix * n + digitOf c) 0
  if digits = [] ∨ bound ≤ value ∨ maxDigits.any (· < digits.length) = true then none
  else if allowZeroPrefix = false ∧ digits.head? = some '0' ∧ 1 < digits.length then none
  else some (cs.drop digits.length)

def readChar (c : Char) : List Char → Option (List Char)
  | [] => none
  | head :: rest => if head = c then some rest else none

def readOctet (cs : List Char) : Option (List Char) := readNumber 10 256 (some 3) false cs

def readIpv4Addr (cs : List Char) : Option (List Char) := do
  let cs ← readOctet cs
  let cs ← (readChar '.' cs).bind readOctet
  let cs ← (readChar '.' cs).bind readOctet
  (readChar '.' cs).bind readOctet

/-- The groups of a v6 address for which there is room: how many there are, and whether the
last two are a v4 address. -/
def readGroups : Nat → Bool → List Char → Nat × Bool × List Char
  | 0, _, cs => (0, false, cs)
  | room + 1, first, cs =>
    let start := if first then some cs else readChar ':' cs
    match if room = 0 then none else start.bind readIpv4Addr with
    | some rest => (2, true, rest)
    | none =>
      match start.bind (readNumber 16 65536 (some 4) true) with
      | some rest =>
        let (count, ipv4, rest) := readGroups room false rest
        (count + 1, ipv4, rest)
      | none => (0, false, cs)

/-- No v4 address stands before `::`, which stands for at least one group. -/
def readIpv6Addr (cs : List Char) : Option (List Char) :=
  let (size, ipv4, rest) := readGroups 8 true cs
  if size = 8 then some rest
  else if ipv4 then none
  else do
    let rest ← readChar ':' rest
    let rest ← readChar ':' rest
    let (_, _, rest) := readGroups (8 - (size + 1)) true rest
    some rest

def readScopeId (cs : List Char) : Option (List Char) :=
  (readChar '%' cs).bind (readNumber 10 4294967296 none true)

def readPort (cs : List Char) : Option (List Char) :=
  (readChar ':' cs).bind (readNumber 10 65536 none true)

def readSocketAddrV4 (cs : List Char) : Option (List Char) := (readIpv4Addr cs).bind readPort

def readSocketAddrV6 (cs : List Char) : Option (List Char) := do
  let cs ← readChar '[' cs
  let cs ← readIpv6Addr cs
  let cs := (readScopeId cs).getD cs
  let cs ← readChar ']' cs
  readPort cs

end HostPort

/-- `s.parse::<SocketAddr>().is_ok()`. -/
def isSocketAddr (s : String) : Bool :=
  match HostPort.readSocketAddrV4 s.toList with
  | some rest => rest.isEmpty
  | none => HostPort.readSocketAddrV6 s.toList = some []

/-- `validate_host_port`. A host name only needs a numeric port behind the last colon. -/
def validateHostPort (addr flag : String) : Except String Unit :=
  if isSocketAddr addr then .ok ()
  else
    match rsplitOnce ':' addr with
    | some (host, port) =>
      if host ≠ "" ∧ (parseU16 port).isSome then .ok ()
      else .error s!"Invalid {flag} '{addr}': expected host:port"
    | none => .error s!"Invalid {flag} '{addr}': expected host:port"

example : isSocketAddr "127.0.0.1:080" = true := by decide +kernel
example : isSocketAddr "[fe80::1%2]:80" = true := by decide +kernel
example : isSocketAddr "[1:2::127.0.0.01]:80" = false := by decide +kernel
example : (validateHostPort "example.com:2333" "--remote-addr").isOk = true := by decide +kernel

end Rathole
