/-!
# Punycode

A text is written in ASCII: its ASCII characters first, then a delimiter, then for each other
character, in the order of code points, how far it is from the one before, in digits whose weights
adapt.
-/

namespace StageRelay.Domain.Punycode

/-- The base of the digits and the bounds of the thresholds between them. -/
structure Weights where
  base : Nat := 36
  least : Nat := 1
  greatest : Nat := 26
  skew : Nat := 38
  damp : Nat := 700
  bias : Nat := 72
  first : Nat := 128

/-- The weights in use. -/
def weights : Weights := {}

/-- The character between the ASCII characters and the others. -/
def delimiter : Nat := 0x2d

/-- The value of a digit. -/
def digit? (n : Nat) : Option Nat :=
  if 0x61 ≤ n && n ≤ 0x7a then some (n - 0x61)
  else if 0x41 ≤ n && n ≤ 0x5a then some (n - 0x41)
  else if 0x30 ≤ n && n ≤ 0x39 then some (n - 0x30 + 26)
  else none

/-- The digit of a value. -/
def digitOf (d : Nat) : Nat :=
  if d < 26 then 0x61 + d else 0x30 + (d - 26)

/-- The threshold of the digit at place `k`. -/
def threshold (k bias : Nat) : Nat :=
  max weights.least (min weights.greatest (k - bias))

/-- Divides down until the quotient is small. -/
def adaptLoop (delta k : Nat) : Nat × Nat :=
  if 455 < delta then adaptLoop (delta / 35) (k + weights.base) else (delta, k)
termination_by delta
decreasing_by omega

/-- The bias after a character at distance `delta`, as one of `count`. -/
def adapt (delta count : Nat) (first : Bool) : Nat :=
  let delta := if first then delta / weights.damp else delta / 2
  let (delta, k) := adaptLoop (delta + delta / count) 0
  k + weights.base * delta / (delta + weights.skew)

/-- Reads a number: the sum so far and what is left of the text. -/
def readNumber (bias : Nat) : Nat → Nat → Nat → List Nat → Option (Nat × List Nat)
  | _, _, _, [] => none
  | k, w, i, n :: rest =>
    match digit? n with
    | none => none
    | some d =>
      let t := threshold k bias
      if d < t then some (i + d * w, rest)
      else readNumber bias (k + weights.base) (w * (weights.base - t)) (i + d * w) rest

/-- Reads the characters after the delimiter into `out`; `fuel` bounds their number. -/
def readAll : Nat → Nat → Nat → Nat → List Nat → List Nat → Option (List Nat)
  | _, _, _, _, out, [] => some out
  | 0, _, _, _, _, _ => none
  | fuel + 1, bias, n, i, out, ns => do
    let (i', rest) ← readNumber bias weights.base 1 i ns
    let count := out.length + 1
    let n := n + i' / count
    let place := i' % count
    if !n.isValidChar then none
    readAll fuel (adapt (i' - i) count (i = 0)) n (place + 1) (out.insertIdx place n) rest

/-- What is before and after the last delimiter. -/
def splitLast (ns : List Nat) : List Nat × List Nat :=
  let after := (ns.reverse.takeWhile (· ≠ delimiter)).reverse
  (ns.take (ns.length - after.length - 1), after)

/-- The text that a text in ASCII denotes. -/
def decode? (ns : List Nat) : Option (List Nat) :=
  let (ascii, rest) := splitLast ns
  readAll rest.length weights.bias weights.first 0 ascii rest

/-- The digits of a number; `fuel` bounds their count. -/
def digitsOf (bias : Nat) : Nat → Nat → Nat → List Nat
  | 0, _, _ => []
  | fuel + 1, k, q =>
    let t := threshold k bias
    if q < t then [digitOf q]
    else
      digitOf (t + (q - t) % (weights.base - t))
        :: digitsOf bias fuel (k + weights.base) ((q - t) / (weights.base - t))

/-- A writing in progress. -/
structure Writing where
  out : List Nat := []
  delta : Nat := 0
  bias : Nat := weights.bias
  count : Nat

/-- Writes the occurrences of the character `m`, of which one is at each `n` that equals it. -/
def Writing.visit (ascii m : Nat) (w : Writing) (n : Nat) : Writing :=
  if n < m then { w with delta := w.delta + 1 }
  else if n = m then
    { out := w.out ++ digitsOf w.bias (w.delta + 1) weights.base w.delta
      delta := 0
      bias := adapt w.delta (w.count + 1) (w.count = ascii)
      count := w.count + 1 }
  else w

/-- Writes the characters of an increasing list, the next of which is not below `n`. -/
def Writing.all (text : List Nat) (ascii : Nat) : Nat → List Nat → Writing → Writing
  | _, [], w => w
  | n, m :: rest, w =>
    let w := { w with delta := w.delta + (m - n) * (w.count + 1) }
    let w := text.foldl (Writing.visit ascii m) w
    Writing.all text ascii (m + 1) rest { w with delta := w.delta + 1 }

/-- The text in ASCII that denotes a text. -/
def encode (text : List Nat) : List Nat :=
  let ascii := text.filter (· < weights.first)
  let others := ((text.filter (weights.first ≤ ·)).mergeSort (· ≤ ·)).eraseDups
  let w := Writing.all text ascii.length weights.first others { count := ascii.length }
  ascii ++ (if ascii.isEmpty then [] else [delimiter]) ++ w.out

end StageRelay.Domain.Punycode
