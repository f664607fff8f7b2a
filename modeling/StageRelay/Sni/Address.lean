import StageRelay.Text.Hex
import StageRelay.Text.Split

/-!
# Network addresses

Addresses of either version with their usual texts: four decimal numbers, or eight groups of
hexadecimal digits of which one run of zeros may be left out and the last two may be written as an
address of version four.
-/

namespace StageRelay

/-- A network address; one of version six has eight groups. -/
inductive Address where
  | v4 (a b c d : UInt8)
  | v6 (groups : List UInt16)
deriving DecidableEq, Repr

namespace Address

/-! ## Reading -/

/-- Reads a number of at most `most` digits of a base, at least one; leading zeros as asked. -/
def readNumber (digit? : Char → Option Nat) (base most : Nat) (zeros : Bool) (cs : List Char) :
    Option (Nat × List Char) :=
  let digits := cs.takeWhile fun c ↦ (digit? c).isSome
  let n := digits.foldl (fun n c ↦ base * n + (digit? c).getD 0) 0
  if digits.isEmpty || most < digits.length then none
  else if !zeros && digits.head? == some '0' && digits.length ≠ 1 then none
  else some (n, cs.dropWhile fun c ↦ (digit? c).isSome)

/-- The value of a decimal digit. -/
def decimalDigit? (c : Char) : Option Nat :=
  if '0' ≤ c ∧ c ≤ '9' then some (c.toNat - 48) else none

/-- Reads a number below 256 without leading zeros. -/
def readOctet (cs : List Char) : Option (Nat × List Char) := do
  let (n, rest) ← readNumber decimalDigit? 10 3 false cs
  if n < 256 then some (n, rest) else none

/-- The text after a character. -/
def after (c : Char) : List Char → Option (List Char)
  | d :: rest => if d = c then some rest else none
  | [] => none

/-- Reads four numbers between points. -/
def readV4 (cs : List Char) : Option ((Nat × Nat × Nat × Nat) × List Char) := do
  let (a, cs) ← readOctet cs
  let cs ← after '.' cs
  let (b, cs) ← readOctet cs
  let cs ← after '.' cs
  let (c, cs) ← readOctet cs
  let cs ← after '.' cs
  let (d, cs) ← readOctet cs
  return ((a, b, c, d), cs)

/-- The text of the next group: all but the first one follow a colon. -/
def atGroup (first : Bool) (cs : List Char) : Option (List Char) :=
  if first then some cs else after ':' cs

/-- Reads at most `count` groups. An address of version four counts for two and is the last. -/
def readGroups : Nat → Bool → List Char → List Nat × Bool × List Char
  | 0, _, cs => ([], false, cs)
  | count + 1, first, cs =>
    match (if count = 0 then none else atGroup first cs).bind readV4 with
    | some ((a, b, c, d), rest) => ([256 * a + b, 256 * c + d], true, rest)
    | none =>
      match (atGroup first cs).bind (readNumber Text.hexDigit? 16 4 true) with
      | none => ([], false, cs)
      | some (g, rest) =>
        let (groups, mixed, rest) := readGroups count false rest
        (g :: groups, mixed, rest)

/-- Reads eight groups; two colons stand for at least one group of zeros. -/
def readV6 (cs : List Char) : Option (List Nat × List Char) := do
  let (head, mixed, cs) := readGroups 8 true cs
  if head.length = 8 then return (head, cs)
  if mixed then none
  let cs ← after ':' cs
  let cs ← after ':' cs
  let (tail, _, cs) := readGroups (7 - head.length) true cs
  return (head ++ List.replicate (8 - head.length - tail.length) 0 ++ tail, cs)

/-- The address that a text denotes. -/
def parse? (cs : List Char) : Option Address :=
  match readV4 cs with
  | some ((a, b, c, d), rest) =>
    if rest.isEmpty then some (.v4 (.ofNat a) (.ofNat b) (.ofNat c) (.ofNat d)) else none
  | none =>
    match readV6 cs with
    | some (groups, []) => some (.v6 (groups.map UInt16.ofNat))
    | _ => none

/-! ## Writing -/

/-- The decimal digits of a byte. -/
def octetText (b : UInt8) : List Char :=
  Nat.toDigits 10 b.toNat

/-- Four numbers between points. -/
def v4Text (a b c d : UInt8) : List Char :=
  Text.joinWith ['.'] [octetText a, octetText b, octetText c, octetText d]

/-- Groups between colons. -/
def groupsText (groups : List UInt16) : List Char :=
  Text.joinWith [':'] (groups.map fun g ↦ Text.hexOf g.toNat)

/-- The number of zeros that a list starts with. -/
def zerosAhead : List UInt16 → Nat
  | 0 :: rest => zerosAhead rest + 1
  | _ => 0

/-- The first of the longest runs of zeros, as its start and length; `i` is the place of
the list. -/
def longestRun : Nat → List UInt16 → Nat × Nat
  | i, [] => (i, 0)
  | i, g :: rest =>
    let here := zerosAhead (g :: rest)
    let (start, length) := longestRun (i + 1) rest
    if length ≤ here then (i, here) else (start, length)

/-- Eight groups; the first longest run of two zeros or more is left out. -/
def v6Text (groups : List UInt16) : List Char :=
  match groups with
  | [0, 0, 0, 0, 0, 0xffff, x, y] =>
    [':', ':', 'f', 'f', 'f', 'f', ':'] ++
      v4Text (x >>> 8).toUInt8 x.toUInt8 (y >>> 8).toUInt8 y.toUInt8
  | _ =>
    let (start, length) := longestRun 0 groups
    if 1 < length then
      groupsText (groups.take start) ++ [':', ':'] ++ groupsText (groups.drop (start + length))
    else groupsText groups

/-- The text of an address. -/
def text : Address → List Char
  | .v4 a b c d => v4Text a b c d
  | .v6 groups => v6Text groups

/-- The address of four or sixteen bytes. -/
def ofBytes? (bs : List UInt8) : Option Address :=
  match bs with
  | [a, b, c, d] => some (.v4 a b c d)
  | [a, b, c, d, e, f, g, h, i, j, k, l, m, n, o, p] =>
    let pair (x y : UInt8) : UInt16 := x.toUInt16 <<< 8 ||| y.toUInt16
    some (.v6 [pair a b, pair c d, pair e f, pair g h, pair i j, pair k l, pair m n, pair o p])
  | _ => none

end Address

end StageRelay
