import Rathole.HostPort
import Rathole.RuntimeStatus
import Mathlib.Tactic.Ring

set_option autoImplicit false

/- Socket addresses as texts: `Display` and `FromStr` of the standard library. -/
namespace Rathole.SocketAddr

/-- The digits of a number in a base, the highest first. -/
def split (base : Nat) : Nat → Nat → List Nat
  | 0, _ => []
  | count + 1, n => split base count (n / base) ++ [n % base]

def join (base : Nat) (digits : List Nat) : Nat := digits.foldl (fun n d => base * n + d) 0

def joinWith (sep : Char) : List (List Char) → List Char
  | [] => []
  | [part] => part
  | part :: next :: rest => part ++ sep :: joinWith sep (next :: rest)

def displayIpv4 (ip : Nat) : List Char := joinWith '.' ((split 256 4 ip).map (Nat.toDigits 10))

/-- A run of zeros among the segments. -/
structure Span where
  start : Nat
  len : Nat

/-- The first of the longest runs of zeros. `current` is the run that ends in front of segment
`i`. -/
def longestZeros : Nat → Span → Span → List Nat → Span
  | _, _, longest, [] => longest
  | i, current, longest, segment :: rest =>
    if segment = 0 then
      let current := ⟨if current.len = 0 then i else current.start, current.len + 1⟩
      longestZeros (i + 1) current (if longest.len < current.len then current else longest) rest
    else longestZeros (i + 1) ⟨0, 0⟩ longest rest

/-- `fmt_subslice`. -/
def displaySegments (segments : List Nat) : List Char :=
  joinWith ':' (segments.map (Nat.toDigits 16))

def displayIpv6 (ip : Nat) : List Char :=
  if ip / 2 ^ 32 = 0xFFFF then "::ffff:".toList ++ displayIpv4 (ip % 2 ^ 32)
  else
    let segments := split 65536 8 ip
    let zeroes := longestZeros 0 ⟨0, 0⟩ ⟨0, 0⟩ segments
    if 1 < zeroes.len then
      displaySegments (segments.take zeroes.start) ++ "::".toList ++
        displaySegments (segments.drop (zeroes.start + zeroes.len))
    else displaySegments segments

/-- The flow information is not displayed. -/
def display : SocketAddr → List Char
  | .v4 ip port => displayIpv4 ip.toNat ++ ':' :: Nat.toDigits 10 port.toNat
  | .v6 ip port _ scopeId =>
    let scope := if scopeId = 0 then [] else '%' :: Nat.toDigits 10 scopeId.toNat
    '[' :: displayIpv6 ip.toNat ++ scope ++ ']' :: ':' :: Nat.toDigits 10 port.toNat

/-- A number, as `HostPort.readNumber` accepts it. -/
def readNumber (radix bound : Nat) (maxDigits : Option Nat) (allowZeroPrefix : Bool)
    (cs : List Char) : Option (Nat × List Char) :=
  let digits := cs.takeWhile fun c => HostPort.digitOf c < radix
  (HostPort.readNumber radix bound maxDigits allowZeroPrefix cs).map fun rest =>
    (digits.foldl (fun n c => radix * n + HostPort.digitOf c) 0, rest)

def readOctet (cs : List Char) : Option (Nat × List Char) := readNumber 10 256 (some 3) false cs

def readIpv4Addr (cs : List Char) : Option (Nat × List Char) := do
  let (a, cs) ← readOctet cs
  let (b, cs) ← (HostPort.readChar '.' cs).bind readOctet
  let (c, cs) ← (HostPort.readChar '.' cs).bind readOctet
  let (d, cs) ← (HostPort.readChar '.' cs).bind readOctet
  some (join 256 [a, b, c, d], cs)

/-- The groups of a v6 address for which there is room, and whether the last two are a v4
address. -/
def readGroups : Nat → Bool → List Char → List Nat × Bool × List Char
  | 0, _, cs => ([], false, cs)
  | room + 1, first, cs =>
    let start := if first then some cs else HostPort.readChar ':' cs
    match if room = 0 then none else start.bind readIpv4Addr with
    | some (ip, rest) => (split 65536 2 ip, true, rest)
    | none =>
      match start.bind (readNumber 16 65536 (some 4) true) with
      | some (group, rest) =>
        let (groups, ipv4, rest) := readGroups room false rest
        (group :: groups, ipv4, rest)
      | none => ([], false, cs)

def readIpv6Addr (cs : List Char) : Option (Nat × List Char) :=
  let (head, ipv4, rest) := readGroups 8 true cs
  if head.length = 8 then some (join 65536 head, rest)
  else if ipv4 then none
  else do
    let rest ← HostPort.readChar ':' rest
    let rest ← HostPort.readChar ':' rest
    let (tail, _, rest) := readGroups (8 - (head.length + 1)) true rest
    some (join 65536 (head ++ List.replicate (8 - head.length - tail.length) 0 ++ tail), rest)

def readScopeId (cs : List Char) : Option (Nat × List Char) :=
  (HostPort.readChar '%' cs).bind (readNumber 10 4294967296 none true)

def readPort (cs : List Char) : Option (Nat × List Char) :=
  (HostPort.readChar ':' cs).bind (readNumber 10 65536 none true)

def readSocketAddrV4 (cs : List Char) : Option (SocketAddr × List Char) := do
  let (ip, cs) ← readIpv4Addr cs
  let (port, cs) ← readPort cs
  some (.v4 (BitVec.ofNat 32 ip) (BitVec.ofNat 16 port), cs)

def readSocketAddrV6 (cs : List Char) : Option (SocketAddr × List Char) := do
  let cs ← HostPort.readChar '[' cs
  let (ip, cs) ← readIpv6Addr cs
  let (scopeId, cs) := (readScopeId cs).getD (0, cs)
  let cs ← HostPort.readChar ']' cs
  let (port, cs) ← readPort cs
  some (.v6 (BitVec.ofNat 128 ip) (BitVec.ofNat 16 port) 0 (BitVec.ofNat 32 scopeId), cs)

/-- `s.parse::<SocketAddr>()`. -/
def parse (s : String) : Option SocketAddr :=
  match readSocketAddrV4 s.toList with
  | some (addr, rest) => if rest = [] then some addr else none
  | none =>
    match readSocketAddrV6 s.toList with
    | some (addr, rest) => if rest = [] then some addr else none
    | none => none

example : String.ofList (SocketAddr.v6 (BitVec.ofNat 128 (join 65536 [0xfe80, 0, 0, 1, 0, 0, 0, 2]))
    80 0 3).display = "[fe80:0:0:1::2%3]:80" := by decide +kernel
example : String.ofList (SocketAddr.v6 (BitVec.ofNat 128 (2 ^ 32 * 0xFFFF + 0x7F000001)) 80 0
    0).display = "[::ffff:127.0.0.1]:80" := by decide +kernel
example : parse "[1:2::127.0.0.1]:080" =
    some (.v6 (BitVec.ofNat 128 (join 65536 [1, 2, 0, 0, 0, 0, 0x7f00, 1])) 80 0 0) := by
  decide +kernel

section Digits

theorem join_append (base : Nat) (digits : List Nat) (d : Nat) :
    join base (digits ++ [d]) = base * join base digits + d := by
  simp [join]

@[simp] theorem length_split (base count n : Nat) : (split base count n).length = count := by
  induction count generalizing n with
  | zero => rfl
  | succ count ih => rw [split, List.length_append, ih, List.length_singleton]

theorem join_split (base count n : Nat) : join base (split base count n) = n % base ^ count := by
  induction count generalizing n with
  | zero => simp [split, join, Nat.mod_one]
  | succ count ih =>
    rw [split, join_append, ih, pow_succ', Nat.mod_mul, Nat.add_comm]

theorem join_split_of_lt {base count n : Nat} (small : n < base ^ count) :
    join base (split base count n) = n := by
  rw [join_split, Nat.mod_eq_of_lt small]

theorem lt_of_mem_split {base count n d : Nat} (positive : 0 < base)
    (member : d ∈ split base count n) : d < base := by
  induction count generalizing n with
  | zero => exact absurd member List.not_mem_nil
  | succ count ih =>
    rcases List.mem_append.mp member with front | last
    · exact ih front
    · rw [List.mem_singleton.mp last]
      exact Nat.mod_lt n positive

theorem digitOf_digitChar {d : Nat} (small : d < 16) : HostPort.digitOf d.digitChar = d := by
  have all : ∀ d < 16, HostPort.digitOf d.digitChar = d := by decide
  exact all d small

variable {radix : Nat}

theorem digitOf_lt_of_mem_toDigits (positive : 1 < radix) (hex : radix ≤ 16) {n : Nat} :
    ∀ c ∈ Nat.toDigits radix n, HostPort.digitOf c < radix := by
  induction n using Nat.strongRecOn with
  | _ n ih =>
    intro c member
    rw [Nat.toDigits_eq_if positive] at member
    split at member
    · next small =>
      rw [List.mem_singleton.mp member, digitOf_digitChar (by omega)]
      exact small
    · next large =>
      have last := Nat.mod_lt n (Nat.lt_of_succ_lt positive)
      rcases List.mem_append.mp member with front | here
      · exact ih (n / radix) (Nat.div_lt_self (by omega) positive) c front
      · rw [List.mem_singleton.mp here, digitOf_digitChar (by omega)]
        exact last

theorem value_toDigits (positive : 1 < radix) (hex : radix ≤ 16) (n : Nat) :
    (Nat.toDigits radix n).foldl (fun n c => radix * n + HostPort.digitOf c) 0 = n := by
  induction n using Nat.strongRecOn with
  | _ n ih =>
    rw [Nat.toDigits_eq_if positive]
    split
    · next small => simp [digitOf_digitChar (show n < 16 by omega)]
    · next large =>
      have last := Nat.mod_lt n (Nat.lt_of_succ_lt positive)
      rw [List.foldl_append, ih (n / radix) (Nat.div_lt_self (by omega) positive)]
      simp [digitOf_digitChar (show n % radix < 16 by omega), Nat.div_add_mod]

/-- No zero stands in front of other digits. -/
theorem length_of_zero_head (positive : 1 < radix) {n : Nat}
    (zero : (Nat.toDigits radix n).head? = some '0') : (Nat.toDigits radix n).length = 1 := by
  have headed : ∀ n, 0 < n → (Nat.toDigits radix n).head? ≠ some '0' := by
    intro n
    induction n using Nat.strongRecOn with
    | _ n ih =>
      intro nonzero
      rw [Nat.toDigits_eq_if positive]
      split
      · intro same
        have := Nat.digitChar_eq_zero.mp (Option.some.inj same)
        omega
      · next large =>
        have smaller := ih (n / radix) (Nat.div_lt_self nonzero positive)
          (Nat.div_pos (by omega) (by omega))
        rw [List.head?_append_of_ne_nil _ Nat.toDigits_ne_nil]
        exact smaller
  rcases Nat.eq_zero_or_pos n with rfl | nonzero
  · rw [Nat.toDigits_zero]
    rfl
  · exact absurd zero (headed n nonzero)

/-- A text at which a number in this radix ends. -/
def Stops (radix : Nat) (rest : List Char) : Prop :=
  ∀ c, rest.head? = some c → radix ≤ HostPort.digitOf c

theorem takeWhile_digits {cs rest : List Char} (digits : ∀ c ∈ cs, HostPort.digitOf c < radix)
    (stops : Stops radix rest) :
    (cs ++ rest).takeWhile (fun c => HostPort.digitOf c < radix) = cs := by
  have stop : rest.takeWhile (fun c => HostPort.digitOf c < radix) = [] := by
    cases rest with
    | nil => rfl
    | cons c rest => simp [Nat.not_lt.mpr (stops c rfl)]
  rw [List.takeWhile_append_of_pos (by simpa using digits), stop, List.append_nil]

theorem readNumber_toDigits (positive : 1 < radix) (hex : radix ≤ 16) {bound n : Nat}
    {maxDigits : Option Nat} (small : n < bound)
    (width : maxDigits.any (· < (Nat.toDigits radix n).length) = false) (allowZeroPrefix : Bool)
    {rest : List Char} (stops : Stops radix rest) :
    readNumber radix bound maxDigits allowZeroPrefix (Nat.toDigits radix n ++ rest) =
      some (n, rest) := by
  have digits := takeWhile_digits (digitOf_lt_of_mem_toDigits positive hex (n := n)) stops
  have value := value_toDigits positive hex n
  have some_ : Nat.toDigits radix n ≠ [] := Nat.toDigits_ne_nil
  have prefix_ : ¬(allowZeroPrefix = false ∧ (Nat.toDigits radix n).head? = some '0' ∧
      1 < (Nat.toDigits radix n).length) := by
    rintro ⟨-, zero, more⟩
    rw [length_of_zero_head positive zero] at more
    omega
  simp only [readNumber, HostPort.readNumber, digits, value]
  rw [if_neg (by simp [some_, small, width]), if_neg prefix_, List.drop_left]
  rfl

end Digits

section Ipv4

variable {rest : List Char}

theorem stops_cons {radix : Nat} {c : Char} (other : radix ≤ HostPort.digitOf c) :
    Stops radix (c :: rest) := by
  rintro d same
  cases same
  exact other

theorem readOctet_toDigits {n : Nat} (small : n < 256) (rest : List Char)
    (stops : Stops 10 rest) :
    readOctet (Nat.toDigits 10 n ++ rest) = some (n, rest) := by
  have width : (Nat.toDigits 10 n).length ≤ 3 :=
    (Nat.length_toDigits_le_iff (by decide) (by decide)).mpr (by omega)
  exact readNumber_toDigits (by decide) (by decide) small (by simpa using width) false stops

theorem readIpv4Addr_display {ip : Nat} (small : ip < 2 ^ 32) (stops : Stops 10 rest) :
    readIpv4Addr (displayIpv4 ip ++ rest) = some (ip, rest) := by
  have whole := join_split_of_lt (show ip < 256 ^ 4 by omega)
  have octet : ∀ d ∈ split 256 4 ip, d < 256 := fun d => lt_of_mem_split (by decide)
  obtain ⟨a, b, c, d, parts⟩ : ∃ a b c d, split 256 4 ip = [a, b, c, d] := ⟨_, _, _, _, rfl⟩
  rw [parts] at whole octet
  have first := readOctet_toDigits (octet a (by simp)) ('.' :: (Nat.toDigits 10 b ++
    '.' :: (Nat.toDigits 10 c ++ '.' :: (Nat.toDigits 10 d ++ rest)))) (stops_cons (by decide))
  have second := readOctet_toDigits (octet b (by simp)) ('.' :: (Nat.toDigits 10 c ++
    '.' :: (Nat.toDigits 10 d ++ rest))) (stops_cons (by decide))
  have third := readOctet_toDigits (octet c (by simp)) ('.' :: (Nat.toDigits 10 d ++ rest))
    (stops_cons (by decide))
  have last := readOctet_toDigits (octet d (by simp)) rest stops
  have dot : ∀ cs, (HostPort.readChar '.' ('.' :: cs)).bind readOctet = readOctet cs := by
    intro cs
    simp [HostPort.readChar]
  simp only [displayIpv4, parts, List.map_cons, List.map_nil, joinWith, List.append_assoc,
    List.cons_append]
  rw [readIpv4Addr, first]
  simp only [Option.bind_eq_bind, Option.bind_some, dot, second, third, last, whole]

/-- Digits that no dot follows are no address. -/
theorem readIpv4Addr_digits {cs : List Char} (digits : ∀ c ∈ cs, HostPort.digitOf c < 16)
    (behind : ∀ c, rest.head? = some c → c ≠ '.' ∧ HostPort.digitOf c = 16) :
    readIpv4Addr (cs ++ rest) = none := by
  have noDot : ∀ c ∈ cs, c ≠ '.' := by
    rintro c member rfl
    exact absurd (digits '.' member) (by decide)
  have left : ∀ k ≤ cs.length, HostPort.readChar '.' ((cs ++ rest).drop k) = none := by
    intro k bounded
    have front : ∀ c later, (cs ++ rest).drop k = c :: later → c ≠ '.' := by
      intro c later begins
      rw [List.drop_append_of_le_length bounded] at begins
      cases remaining : cs.drop k with
      | nil =>
        rw [remaining, List.nil_append] at begins
        exact (behind c (by rw [begins]; rfl)).1
      | cons d others =>
        rw [remaining, List.cons_append] at begins
        cases begins
        exact noDot c (List.mem_of_mem_drop (by rw [remaining]; exact List.mem_cons_self))
    cases begins : (cs ++ rest).drop k with
    | nil => rfl
    | cons c later => rw [HostPort.readChar, if_neg (front c later begins)]
  have bounded : ((cs ++ rest).takeWhile fun c => HostPort.digitOf c < 10).length ≤ cs.length := by
    have stop : rest.takeWhile (fun c => HostPort.digitOf c < 10) = [] := by
      cases rest with
      | nil => rfl
      | cons c others => simp [(behind c rfl).2]
    rw [List.takeWhile_append, stop]
    split
    · simp
    · exact (List.takeWhile_prefix _).length_le
  cases read : readOctet (cs ++ rest) with
  | none => rw [readIpv4Addr, read]; rfl
  | some taken =>
    obtain ⟨n, left'⟩ := taken
    have same : left' = (cs ++ rest).drop
        ((cs ++ rest).takeWhile fun c => HostPort.digitOf c < 10).length := by
      simp only [readOctet, readNumber, HostPort.readNumber, Option.map_eq_some_iff] at read
      obtain ⟨other, found, pair⟩ := read
      split at found
      · cases found
      · split at found
        · cases found
        · cases found
          exact (Prod.mk.inj pair).2.symm
    rw [readIpv4Addr, read]
    show ((HostPort.readChar '.' left').bind readOctet).bind _ = none
    rw [same, left _ bounded]
    rfl

end Ipv4

section Ipv6

/-- What follows a part of a v6 address: the zeros that are left out, or the end of it. -/
def Behind (rest : List Char) : Prop :=
  (∃ later, rest = ':' :: ':' :: later) ∨ ∃ c later, rest = c :: later ∧ (c = ']' ∨ c = '%')

variable {rest : List Char}

theorem Behind.head (behind : Behind rest) :
    ∀ c, rest.head? = some c → c ≠ '.' ∧ HostPort.digitOf c = 16 := by
  intro c first
  rcases behind with ⟨later, rfl⟩ | ⟨d, later, rfl, rfl | rfl⟩ <;> cases first <;> decide

theorem Behind.stops (behind : Behind rest) {radix : Nat} (hex : radix ≤ 16) :
    Stops radix rest := by
  intro c first
  rw [(behind.head c first).2]
  exact hex

/-- The segments as they stand behind others. -/
def following (segments : List Nat) : List Char :=
  segments.flatMap fun segment => ':' :: Nat.toDigits 16 segment

theorem joinWith_cons (part : List Char) (parts : List (List Char)) :
    joinWith ':' (part :: parts) = part ++ parts.flatMap fun part => ':' :: part := by
  induction parts generalizing part with
  | nil => simp [joinWith]
  | cons next parts ih => rw [joinWith, ih]; simp

theorem displaySegments_cons (segment : Nat) (segments : List Nat) :
    displaySegments (segment :: segments) = Nat.toDigits 16 segment ++ following segments := by
  simp [displaySegments, joinWith_cons, following, List.flatMap_map]

theorem readChar_cons (c : Char) (cs : List Char) : HostPort.readChar c (c :: cs) = some cs := by
  simp [HostPort.readChar]

theorem readNumber_none {radix bound : Nat} {maxDigits : Option Nat} {allowZeroPrefix : Bool}
    (stops : Stops radix rest) : readNumber radix bound maxDigits allowZeroPrefix rest = none := by
  have digits : rest.takeWhile (fun c => HostPort.digitOf c < radix) = [] := by
    simpa using takeWhile_digits
      (show ∀ c ∈ ([] : List Char), HostPort.digitOf c < radix by simp) stops
  simp [readNumber, HostPort.readNumber, digits]

/-- One group is read, and no address in its place. -/
theorem readGroup_toDigits {n : Nat} (small : n < 65536)
    (behind : ∀ c, rest.head? = some c → c ≠ '.' ∧ HostPort.digitOf c = 16) :
    readIpv4Addr (Nat.toDigits 16 n ++ rest) = none ∧
      readNumber 16 65536 (some 4) true (Nat.toDigits 16 n ++ rest) = some (n, rest) := by
  have width : (Nat.toDigits 16 n).length ≤ 4 :=
    (Nat.length_toDigits_le_iff (by decide) (by decide)).mpr (by omega)
  have digits := digitOf_lt_of_mem_toDigits (show 1 < 16 by decide) (by decide) (n := n)
  refine ⟨readIpv4Addr_digits digits behind, ?_⟩
  exact readNumber_toDigits (by decide) (by decide) small (by simpa using width) true
    fun c first => (behind c first).2.ge

/-- No group stands in front of what follows a part of an address. -/
theorem readGroups_behind (room : Nat) (first : Bool) (behind : Behind rest) :
    readGroups room first rest = ([], false, rest) := by
  have nothing : ∀ cs : List Char, (∀ c, cs.head? = some c → c ≠ '.' ∧ HostPort.digitOf c = 16) →
      readIpv4Addr cs = none ∧ readNumber 16 65536 (some 4) true cs = none := by
    intro cs head
    have ipv4 := readIpv4Addr_digits
      (show ∀ c ∈ ([] : List Char), HostPort.digitOf c < 16 by simp) head
    exact ⟨ipv4, readNumber_none fun c same => (head c same).2.ge⟩
  have start : ∀ cs, (if first then some rest else HostPort.readChar ':' rest) = some cs →
      readIpv4Addr cs = none ∧ readNumber 16 65536 (some 4) true cs = none := by
    intro cs begins
    apply nothing cs
    cases first with
    | true => cases begins; exact behind.head
    | false =>
      rcases behind with ⟨later, rfl⟩ | ⟨c, later, rfl, rfl | rfl⟩
      · rw [if_neg (by decide), readChar_cons] at begins
        cases begins
        rintro c ⟨⟩
        decide
      · exact absurd begins (by simp [HostPort.readChar])
      · exact absurd begins (by simp [HostPort.readChar])
  cases room with
  | zero => rfl
  | succ room =>
    rw [readGroups]
    cases begins : (if first then some rest else HostPort.readChar ':' rest) with
    | none => simp
    | some cs => simp [(start cs begins).1, (start cs begins).2]

theorem following_head (segments : List Nat) (behind : Behind rest) :
    ∀ c, (following segments ++ rest).head? = some c → c ≠ '.' ∧ HostPort.digitOf c = 16 := by
  cases segments with
  | nil => exact behind.head
  | cons segment others =>
    rintro c ⟨⟩
    decide

/-- A turn that finds a group. -/
theorem readGroups_turn {room group : Nat} {first : Bool} {text cs left : List Char}
    (start : (if first then some text else HostPort.readChar ':' text) = some cs)
    (ipv4 : readIpv4Addr cs = none)
    (read : readNumber 16 65536 (some 4) true cs = some (group, left)) :
    readGroups (room + 1) first text =
      (group :: (readGroups room false left).1, (readGroups room false left).2) := by
  rw [readGroups, start]
  simp only [Option.bind_some, ipv4, read, ite_self]

theorem readGroups_following {segments : List Nat} (small : ∀ s ∈ segments, s < 65536)
    {room : Nat} (enough : segments.length ≤ room) (behind : Behind rest) :
    readGroups room false (following segments ++ rest) = (segments, false, rest) := by
  induction segments generalizing room with
  | nil => exact readGroups_behind room false behind
  | cons segment others ih =>
    obtain ⟨left, rfl⟩ : ∃ left, room = left + 1 := ⟨room - 1, by simp at enough; omega⟩
    have later := ih (fun s member => small s (List.mem_cons_of_mem _ member))
      (show others.length ≤ left by simpa using enough)
    obtain ⟨ipv4, group⟩ := readGroup_toDigits (small segment List.mem_cons_self)
      (following_head others behind)
    have text : following (segment :: others) ++ rest =
        ':' :: (Nat.toDigits 16 segment ++ (following others ++ rest)) := by
      simp [following]
    rw [text, readGroups_turn ((if_neg Bool.false_ne_true).trans (readChar_cons ':' _)) ipv4 group,
      later]

theorem readGroups_display {segments : List Nat} (small : ∀ s ∈ segments, s < 65536)
    {room : Nat} (enough : segments.length ≤ room) (behind : Behind rest) :
    readGroups room true (displaySegments segments ++ rest) = (segments, false, rest) := by
  cases segments with
  | nil => exact readGroups_behind room true behind
  | cons segment others =>
    obtain ⟨left, rfl⟩ : ∃ left, room = left + 1 := ⟨room - 1, by simp at enough; omega⟩
    have later := readGroups_following (fun s member => small s (List.mem_cons_of_mem _ member))
      (show others.length ≤ left by simpa using enough) behind
    obtain ⟨ipv4, group⟩ := readGroup_toDigits (small segment List.mem_cons_self)
      (following_head others behind)
    rw [displaySegments_cons, List.append_assoc, readGroups_turn rfl ipv4 group, later]

/-- All segments of the span are there, and zero. -/
def Zeros (segments : List Nat) (span : Span) : Prop :=
  ∀ j, span.start ≤ j → j < span.start + span.len → segments[j]? = some 0

theorem longestZeros_zeros {segments : List Nat} {i : Nat} {current longest : Span}
    (run : Zeros segments current) (ends : current.len ≠ 0 → current.start + current.len = i)
    (best : Zeros segments longest) {later : List Nat} (left : segments.drop i = later) :
    Zeros segments (longestZeros i current longest later) := by
  induction later generalizing i current longest with
  | nil => exact best
  | cons segment others ih =>
    have here : segments[i]? = some segment := by
      rw [← List.head?_drop, left]
      rfl
    have behind : segments.drop (i + 1) = others := by
      rw [← List.tail_drop, left]
      rfl
    rw [longestZeros]
    split
    · next zero =>
      have longer : Zeros segments ⟨if current.len = 0 then i else current.start,
          current.len + 1⟩ := by
        intro j low high
        dsimp only at low high
        rcases Nat.lt_or_ge j i with before | after
        · split at low
          · omega
          · next some_ =>
            exact run j low (by have := ends some_; omega)
        · have same : j = i := by
            split at high
            · omega
            · next some_ =>
              have := ends some_
              omega
          rw [same, here, zero]
      refine ih longer ?_ ?_ behind
      · intro _
        dsimp only
        split
        · omega
        · next some_ =>
          have := ends some_
          omega
      · by_cases larger : longest.len < current.len + 1
        · rw [if_pos larger]
          exact longer
        · rw [if_neg larger]
          exact best
    · exact ih (by intro j low high; dsimp only at low high; omega) (by simp) best behind

/-- The address of the segments around a run of zeros. -/
theorem segments_eq {segments : List Nat} {span : Span} (zeros : Zeros segments span)
    (nonempty : 0 < span.len) :
    span.start + span.len ≤ segments.length ∧
      segments = segments.take span.start ++ List.replicate span.len 0 ++
        segments.drop (span.start + span.len) := by
  have inside : span.start + span.len ≤ segments.length := by
    have last := zeros (span.start + span.len - 1) (by omega) (by omega)
    have := (List.getElem?_eq_some_iff.mp last).1
    omega
  refine ⟨inside, ?_⟩
  have middle : (segments.drop span.start).take span.len = List.replicate span.len 0 := by
    refine List.ext_getElem? fun j => ?_
    rw [List.getElem?_take, List.getElem?_drop, List.getElem?_replicate]
    split
    · next bounded => exact zeros _ (by omega) (by omega)
    · rfl
  rw [← middle, List.append_assoc, ← List.drop_drop, List.take_append_drop,
    List.take_append_drop]

theorem readIpv6Addr_elided {head tail : List Nat} {later : List Char}
    (front : ∀ s ∈ head, s < 65536) (back : ∀ s ∈ tail, s < 65536)
    (room : head.length + 1 + tail.length ≤ 8) (behind : Behind later) :
    readIpv6Addr (displaySegments head ++ ':' :: ':' :: (displaySegments tail ++ later)) =
      some (join 65536 (head ++ List.replicate (8 - head.length - tail.length) 0 ++ tail),
        later) := by
  have first := readGroups_display front (show head.length ≤ 8 by omega)
    (show Behind (':' :: ':' :: (displaySegments tail ++ later)) from .inl ⟨_, rfl⟩)
  have last := readGroups_display back
    (show tail.length ≤ 8 - (head.length + 1) by omega) behind
  rw [readIpv6Addr, first]
  simp only [show ¬head.length = 8 by omega, if_false, readChar_cons, Option.bind_eq_bind,
    Option.bind_some, last, Bool.false_eq_true]

/-- The last two segments of a mapped address are written as a v4 address. -/
theorem readGroups_mapped {ip : Nat} (small : ip < 2 ^ 32) (behind : Behind rest) :
    readGroups 7 true ("ffff:".toList ++ (displayIpv4 ip ++ rest)) =
      (0xFFFF :: split 65536 2 ip, true, rest) := by
  have address := readIpv4Addr_display small
    (show Stops 10 rest from behind.stops (by decide))
  obtain ⟨ipv4, group⟩ := readGroup_toDigits (show 0xFFFF < 65536 by decide)
    (show ∀ c, (':' :: (displayIpv4 ip ++ rest)).head? = some c →
      c ≠ '.' ∧ HostPort.digitOf c = 16 by rintro c ⟨⟩; decide)
  have text : "ffff:".toList ++ (displayIpv4 ip ++ rest) =
      Nat.toDigits 16 0xFFFF ++ ':' :: (displayIpv4 ip ++ rest) := rfl
  have second : readGroups 6 false (':' :: (displayIpv4 ip ++ rest)) =
      (split 65536 2 ip, true, rest) := by
    rw [readGroups, if_neg (by decide), if_neg (by decide), readChar_cons, Option.bind_some,
      address]
  rw [text, readGroups_turn rfl ipv4 group, second]

theorem readIpv6Addr_display {ip : Nat} (small : ip < 2 ^ 128) (c : Char) (later : List Char)
    (closing : c = ']' ∨ c = '%') :
    readIpv6Addr (displayIpv6 ip ++ c :: later) = some (ip, c :: later) := by
  have behind : Behind (c :: later) := .inr ⟨c, later, rfl, closing⟩
  have whole : join 65536 (split 65536 8 ip) = ip := join_split_of_lt (by omega)
  have each : ∀ s ∈ split 65536 8 ip, s < 65536 := fun s => lt_of_mem_split (by decide)
  unfold displayIpv6
  split
  · next mapped =>
    have low : ip % 2 ^ 32 < 2 ^ 32 := Nat.mod_lt _ (by decide)
    have front := readGroups_behind 8 true (show Behind (':' :: ':' :: ("ffff:".toList ++
      (displayIpv4 (ip % 2 ^ 32) ++ c :: later))) from .inl ⟨_, rfl⟩)
    have back := readGroups_mapped low behind
    have value : join 65536 ([] ++ List.replicate 5 0 ++ 0xFFFF :: split 65536 2 (ip % 2 ^ 32)) =
        ip := by
      simp only [join, split, List.replicate, List.foldl_cons, List.foldl_nil, List.nil_append,
        List.cons_append]
      omega
    have text : "::ffff:".toList ++ displayIpv4 (ip % 2 ^ 32) ++ c :: later =
        ':' :: ':' :: ("ffff:".toList ++ (displayIpv4 (ip % 2 ^ 32) ++ c :: later)) := by
      rw [List.append_assoc]
      rfl
    rw [text, readIpv6Addr, front]
    simp only [List.length_nil, show ¬(0 = 8) by decide, if_false, readChar_cons,
      Option.bind_eq_bind, Option.bind_some, Bool.false_eq_true, Nat.zero_add, Nat.reduceSub, back,
      List.length_cons, length_split]
    rw [value]
  · dsimp only
    split
    · next compressed =>
      have none_ : Zeros (split 65536 8 ip) ⟨0, 0⟩ := by
        intro j low high
        dsimp only at high
        omega
      have zeros : Zeros (split 65536 8 ip) (longestZeros 0 ⟨0, 0⟩ ⟨0, 0⟩ (split 65536 8 ip)) :=
        longestZeros_zeros none_ (by simp) none_ rfl
      revert compressed zeros
      generalize longestZeros 0 ⟨0, 0⟩ ⟨0, 0⟩ (split 65536 8 ip) = span
      intro compressed zeros
      obtain ⟨inside, parts⟩ := segments_eq zeros (by omega)
      rw [length_split] at inside
      have read := readIpv6Addr_elided
        (fun s (member : s ∈ (split 65536 8 ip).take span.start) =>
          each s (List.mem_of_mem_take member))
        (fun s (member : s ∈ (split 65536 8 ip).drop (span.start + span.len)) =>
          each s (List.mem_of_mem_drop member))
        (by simp only [List.length_take, List.length_drop, length_split]; omega) behind
      have count : 8 - ((split 65536 8 ip).take span.start).length -
          ((split 65536 8 ip).drop (span.start + span.len)).length = span.len := by
        simp only [List.length_take, List.length_drop, length_split]
        omega
      rw [count, ← parts, whole] at read
      rw [List.append_assoc, List.append_assoc]
      exact read
    · next plain =>
      rw [readIpv6Addr, readGroups_display each (by simp) behind]
      simp [whole]

end Ipv6

section RoundTrip

/-- What a text can say of an address. -/
def shown : SocketAddr → SocketAddr
  | .v4 ip port => .v4 ip port
  | .v6 ip port _ scopeId => .v6 ip port 0 scopeId

theorem readPort_display (port : BitVec 16) :
    readPort (':' :: Nat.toDigits 10 port.toNat) = some (port.toNat, []) := by
  have read : readNumber 10 65536 none true (Nat.toDigits 10 port.toNat ++ []) =
      some (port.toNat, []) :=
    readNumber_toDigits (by decide) (by decide) port.isLt rfl true (by rintro c ⟨⟩)
  rw [List.append_nil] at read
  rw [readPort, readChar_cons, Option.bind_some, read]

theorem readScopeId_display (scopeId : BitVec 32) (later : List Char) :
    readScopeId ('%' :: (Nat.toDigits 10 scopeId.toNat ++ ']' :: later)) =
      some (scopeId.toNat, ']' :: later) := by
  rw [readScopeId, readChar_cons, Option.bind_some]
  exact readNumber_toDigits (by decide) (by decide) scopeId.isLt rfl true
    (stops_cons (by decide))

theorem readSocketAddrV4_display (ip : BitVec 32) (port : BitVec 16) :
    readSocketAddrV4 (display (.v4 ip port)) = some (.v4 ip port, []) := by
  have address := readIpv4Addr_display ip.isLt
    (show Stops 10 (':' :: Nat.toDigits 10 port.toNat) from stops_cons (by decide))
  rw [display, readSocketAddrV4, address]
  simp only [Option.bind_eq_bind, Option.bind_some, readPort_display, BitVec.ofNat_toNat,
    BitVec.setWidth_eq]

theorem readSocketAddrV6_display (ip : BitVec 128) (port : BitVec 16)
    (flowinfo scopeId : BitVec 32) :
    readSocketAddrV6 (display (.v6 ip port flowinfo scopeId)) =
      some (.v6 ip port 0 scopeId, []) := by
  rw [display]
  by_cases none_ : scopeId = 0
  · have address := readIpv6Addr_display ip.isLt ']' (':' :: Nat.toDigits 10 port.toNat)
      (.inl rfl)
    have scope : readScopeId (']' :: ':' :: Nat.toDigits 10 port.toNat) = none := rfl
    rw [if_pos none_, List.append_nil, readSocketAddrV6, List.cons_append, readChar_cons]
    simp only [Option.bind_eq_bind, Option.bind_some, address, scope, Option.getD_none,
      readChar_cons, readPort_display, BitVec.ofNat_toNat, BitVec.setWidth_eq, none_]
    rfl
  · have address := readIpv6Addr_display ip.isLt '%'
      (Nat.toDigits 10 scopeId.toNat ++ ']' :: ':' :: Nat.toDigits 10 port.toNat) (.inr rfl)
    rw [if_neg none_, readSocketAddrV6, List.cons_append, List.cons_append, readChar_cons,
      List.append_assoc, List.cons_append]
    simp only [Option.bind_eq_bind, Option.bind_some, address, readScopeId_display,
      Option.getD_some, readChar_cons, readPort_display, BitVec.ofNat_toNat, BitVec.setWidth_eq]

/-- The text of an address is read as the address. -/
theorem parse_display (addr : SocketAddr) :
    parse (String.ofList addr.display) = some addr.shown := by
  rw [parse, String.toList_ofList]
  cases addr with
  | v4 ip port =>
    rw [readSocketAddrV4_display]
    rfl
  | v6 ip port flowinfo scopeId =>
    have other : readSocketAddrV4 (display (.v6 ip port flowinfo scopeId)) = none := rfl
    rw [other, readSocketAddrV6_display]
    rfl

end RoundTrip

section Accepted

/-- A reader with its value left out. -/
def forget {α : Type} (read : Option (α × List Char)) : Option (List Char) := read.map Prod.snd

theorem forget_bind {α β : Type} (read : Option (α × List Char))
    (next : α × List Char → Option (β × List Char)) (plain : List Char → Option (List Char))
    (same : ∀ taken, forget (next taken) = plain taken.2) :
    forget (read.bind next) = (forget read).bind plain := by
  cases read with
  | none => rfl
  | some taken => exact same taken

theorem forget_last {α β : Type} (read : Option (α × List Char))
    (next : α × List Char → Option (β × List Char))
    (same : ∀ taken, forget (next taken) = some taken.2) :
    forget (read.bind next) = forget read := by
  rw [forget_bind read next some same]
  exact Option.bind_fun_some _

theorem forget_bind_text {β : Type} (text : Option (List Char))
    (next : List Char → Option (β × List Char)) (plain : List Char → Option (List Char))
    (same : ∀ cs, forget (next cs) = plain cs) :
    forget (text.bind next) = text.bind plain := by
  cases text with
  | none => rfl
  | some cs => exact same cs

theorem forget_readNumber (radix bound : Nat) (maxDigits : Option Nat) (allowZeroPrefix : Bool)
    (cs : List Char) : forget (readNumber radix bound maxDigits allowZeroPrefix cs) =
      HostPort.readNumber radix bound maxDigits allowZeroPrefix cs := by
  unfold forget readNumber
  rw [Option.map_map]
  exact Option.map_id'

theorem forget_readOctet (cs : List Char) : forget (readOctet cs) = HostPort.readOctet cs :=
  forget_readNumber 10 256 (some 3) false cs

theorem forget_readIpv4Addr (cs : List Char) :
    forget (readIpv4Addr cs) = HostPort.readIpv4Addr cs := by
  have octet : ∀ cs, forget ((HostPort.readChar '.' cs).bind readOctet) =
      (HostPort.readChar '.' cs).bind HostPort.readOctet := fun cs =>
    forget_bind_text _ _ _ forget_readOctet
  rw [readIpv4Addr, HostPort.readIpv4Addr, ← forget_readOctet]
  refine forget_bind _ _ _ fun a => ?_
  rw [← octet]
  refine forget_bind _ _ _ fun b => ?_
  rw [← octet]
  refine forget_bind _ _ _ fun c => ?_
  rw [← octet]
  exact forget_last _ _ fun d => rfl

theorem readGroups_eq (room : Nat) (first : Bool) (cs : List Char) :
    HostPort.readGroups room first cs =
      ((readGroups room first cs).1.length, (readGroups room first cs).2) := by
  induction room generalizing first cs with
  | zero => rfl
  | succ room ih =>
    rw [HostPort.readGroups, readGroups]
    generalize (if first then some cs else HostPort.readChar ':' cs) = start
    have ipv4 : (if room = 0 then none else start.bind HostPort.readIpv4Addr) =
        forget (if room = 0 then none else start.bind readIpv4Addr) := by
      split
      · rfl
      · exact (forget_bind_text _ _ _ forget_readIpv4Addr).symm
    have group : start.bind (HostPort.readNumber 16 65536 (some 4) true) =
        forget (start.bind (readNumber 16 65536 (some 4) true)) :=
      (forget_bind_text _ _ _ fun cs => forget_readNumber 16 65536 (some 4) true cs).symm
    rw [ipv4, group]
    cases (if room = 0 then none else start.bind readIpv4Addr) with
    | some taken => rfl
    | none =>
      cases start.bind (readNumber 16 65536 (some 4) true) with
      | none => rfl
      | some taken =>
        simp only [forget, Option.map_none, Option.map_some, ih]
        rfl

theorem forget_readIpv6Addr (cs : List Char) :
    forget (readIpv6Addr cs) = HostPort.readIpv6Addr cs := by
  rw [readIpv6Addr, HostPort.readIpv6Addr]
  simp only [readGroups_eq]
  split
  · rfl
  · split
    · rfl
    · refine forget_bind_text _ _ _ fun cs => ?_
      exact forget_bind_text _ _ _ fun cs => rfl

theorem forget_readPort (cs : List Char) : forget (readPort cs) = HostPort.readPort cs :=
  forget_bind_text _ _ _ fun cs => forget_readNumber 10 65536 none true cs

theorem forget_readScopeId (cs : List Char) :
    forget (readScopeId cs) = HostPort.readScopeId cs :=
  forget_bind_text _ _ _ fun cs => forget_readNumber 10 4294967296 none true cs

theorem forget_readSocketAddrV4 (cs : List Char) :
    forget (readSocketAddrV4 cs) = HostPort.readSocketAddrV4 cs := by
  rw [readSocketAddrV4, HostPort.readSocketAddrV4, ← forget_readIpv4Addr]
  refine forget_bind _ _ _ fun ip => ?_
  rw [← forget_readPort]
  exact forget_last _ _ fun port => rfl

theorem forget_readSocketAddrV6 (cs : List Char) :
    forget (readSocketAddrV6 cs) = HostPort.readSocketAddrV6 cs := by
  rw [readSocketAddrV6, HostPort.readSocketAddrV6]
  refine forget_bind_text _ _ _ fun cs => ?_
  rw [← forget_readIpv6Addr]
  refine forget_bind _ _ _ fun ip => ?_
  have scope : ((readScopeId ip.2).getD (0, ip.2)).2 = (HostPort.readScopeId ip.2).getD ip.2 := by
    rw [← forget_readScopeId]
    cases readScopeId ip.2 <;> rfl
  rw [← scope]
  refine forget_bind_text _ _ _ fun cs => ?_
  rw [← forget_readPort]
  exact forget_last _ _ fun port => rfl

/-- The commands and the runtime take the same texts for addresses. -/
theorem isSocketAddr_eq (s : String) : isSocketAddr s = (parse s).isSome := by
  have v4 := forget_readSocketAddrV4 s.toList
  have v6 := forget_readSocketAddrV6 s.toList
  unfold forget at v4 v6
  rw [isSocketAddr, parse, ← v4, ← v6]
  cases readSocketAddrV4 s.toList with
  | some taken => cases left : taken.2 <;> simp [left]
  | none =>
    cases readSocketAddrV6 s.toList with
    | some taken => cases left : taken.2 <;> simp [left]
    | none => rfl

end Accepted

end Rathole.SocketAddr
