/-!
# Shortest decimals of binary64 numbers

A finite binary64 number `m · 2 ^ q` is written with the fewest decimal digits that read back to the
same number; among those the nearest to the number is taken. A decimal reads back when it lies in
the interval of reals that round to the number, the ends included when `m` is even.

The search looks at the two neighbours of the number on the grids of one, two, … digits, in exact
arithmetic.
-/

namespace StageRelay.Decimal

/-- A finite binary64 number `(-1) ^ negative · mantissa · 2 ^ exponent`. -/
structure Binary where
  negative : Bool
  mantissa : Nat
  exponent : Int
deriving DecidableEq, Repr

/-- The first number that needs more than the 52 bits of a fraction. -/
def hiddenBit : Nat := 0x10000000000000

/-- The number that 64 bits stand for; none for infinities and the undefined number. -/
def Binary.ofBits? (bits : UInt64) : Option Binary :=
  let n := bits.toNat
  let negative : Bool := 0x8000000000000000 ≤ n
  let field : Nat := n / hiddenBit % 0x800
  let fraction : Nat := n % hiddenBit
  if field = 2047 then none
  else if field = 0 then some ⟨negative, fraction, -1074⟩
  else some ⟨negative, hiddenBit + fraction, (field : Int) - 1075⟩

/-- Digits of a decimal `digits · 10 ^ exponent`. -/
structure Digits where
  digits : Nat
  exponent : Int
deriving DecidableEq, Repr

/-- The reals that round to a number, the ends and the number counted in one unit, a quarter of the
number's last place. The ends belong to it if it is `closed`. -/
structure Interval where
  low : Nat
  value : Nat
  high : Nat
  closed : Bool

/-- The rounding interval of a number in quarters of its last place. Below a power of two the gap to
the next smaller number is half as wide. -/
def Binary.interval (b : Binary) : Interval :=
  let narrow := b.mantissa = hiddenBit ∧ -1074 < b.exponent
  { low := 4 * b.mantissa - if narrow then 1 else 2
    value := 4 * b.mantissa
    high := 4 * b.mantissa + 2
    closed := b.mantissa % 2 = 0 }

/-- `n · 2 ^ e` over `10 ^ k` as a numerator and a denominator. -/
def scale (n : Nat) (e k : Int) : Nat × Nat :=
  (n * Nat.pow 2 e.toNat * Nat.pow 10 (-k).toNat, Nat.pow 2 (-e).toNat * Nat.pow 10 k.toNat)

/-- Whether the decimal `d · 10 ^ k` lies in an interval whose unit is `2 ^ e`. -/
def Interval.contains (i : Interval) (e : Int) (d : Nat) (k : Int) : Bool :=
  let (low, below) := scale i.low e k
  let (high, above) := scale i.high e k
  if i.closed then low ≤ d * below && d * above ≤ high
  else low < d * below && d * above < high

/-- The better of the two neighbours of `value · 2 ^ e` on the grid of multiples of `10 ^ k`, if one
reads back: the nearer one, and of two equally near ones the even one. -/
def Interval.onGrid (i : Interval) (e k : Int) : Option Nat :=
  let (num, den) := scale i.value e k
  let down := num / den
  let rest := num % den
  let below := i.contains e down k && down ≠ 0
  let above := i.contains e (down + 1) k
  let preferUp := den < 2 * rest ∨ (den = 2 * rest ∧ down % 2 = 1)
  match below, above with
  | true, true => some (if preferUp then down + 1 else down)
  | true, false => some down
  | false, true => some (down + 1)
  | false, false => none

/-- The least `k` with `num / den < 10 ^ k`, looking downwards from `k`. -/
def magnitudeBelow (num den : Nat) : Nat → Int → Int
  | 0, k => k
  | fuel + 1, k => if num * 10 < den then magnitudeBelow (num * 10) den fuel (k - 1) else k

/-- The least `k` with `num / den < 10 ^ k`. -/
def magnitude (num den : Nat) : Int :=
  if den ≤ num then ((Nat.toDigits 10 (num / den)).length : Int)
  else magnitudeBelow num den 400 0

/-- Removes trailing zeros from digits; `fuel` bounds their number. -/
def Digits.strip : Nat → Digits → Digits
  | 0, d => d
  | fuel + 1, d =>
    if d.digits ≠ 0 ∧ d.digits % 10 = 0 then Digits.strip fuel ⟨d.digits / 10, d.exponent + 1⟩
    else d

/-- The shortest decimal on a grid of `count` digits or more, `fuel` grids at most. -/
def Interval.shortestFrom (i : Interval) (e top : Int) : Nat → Nat → Option Digits
  | 0, _ => none
  | fuel + 1, count =>
    let k := top - count
    match i.onGrid e k with
    | some d => some (Digits.strip 20 ⟨d, k⟩)
    | none => i.shortestFrom e top fuel (count + 1)

/-- The shortest decimal that reads back as the number; zero has the single digit 0. -/
def Binary.shortest (b : Binary) : Digits :=
  if b.mantissa = 0 then ⟨0, 0⟩
  else
    let e := b.exponent - 2
    let i := b.interval
    let (num, den) := scale i.value e 0
    (i.shortestFrom e (magnitude num den) 17 1).getD ⟨b.mantissa, 0⟩

/-! ## Layout -/

/-- Where a layout leaves positional notation: `point` is the place of the decimal point counted
from the first digit, positional from `least` to `greatest`. -/
structure Layout where
  least : Int
  greatest : Int

/-- Positional with a decimal point and at least one digit on either side of it, or one digit, a
point and the rest before an exponent. -/
def Layout.render (l : Layout) (d : Digits) : List Char :=
  let ds := Nat.toDigits 10 d.digits
  let point : Int := ds.length + d.exponent
  if d.digits = 0 then ['0', '.', '0']
  else if l.least ≤ point ∧ point ≤ l.greatest then
    if 0 ≤ d.exponent then ds ++ List.replicate d.exponent.toNat '0' ++ ['.', '0']
    else if 0 < point then ds.take point.toNat ++ '.' :: ds.drop point.toNat
    else ['0', '.'] ++ List.replicate (-point).toNat '0' ++ ds
  else
    let mark := if ds.length = 1 then ds else ds.take 1 ++ '.' :: ds.drop 1
    mark ++ 'e' :: (toString (point - 1)).toList

/-- Numbers are positional from `10 ^ -5` up to, but not including, `10 ^ 16`. -/
def jsonLayout : Layout := ⟨-4, 16⟩

/-- The text of a binary64 number in JSON; infinities and the undefined number have none there and
read `null`. -/
def text (bits : UInt64) : String :=
  match Binary.ofBits? bits with
  | none => "null"
  | some b => String.ofList ((if b.negative then ['-'] else []) ++ jsonLayout.render b.shortest)

end StageRelay.Decimal
