/-!
# Reading decimals by scaling

A decimal `significand · 10 ^ exponent` becomes a binary64 number by one multiplication or division
with a power of ten in binary64 arithmetic. Exponents beyond the largest finite power are taken in
steps, and a number too large to be finite is refused.
-/

namespace StageRelay.Decimal

/-- The largest `k` for which `10 ^ k` is finite. -/
def largestPower : Nat := 308

/-- The binary64 number nearest to `10 ^ k`. -/
def powerOfTen (k : Nat) : Float :=
  Float.ofScientific 1 false k

/-- Scales down by the largest power until the exponent is in reach. -/
def scaleDown (f : Float) : Nat → Nat → Float
  | 0, _ => f
  | fuel + 1, k =>
    if k ≤ largestPower then f / powerOfTen k
    else if f == 0 then f
    else scaleDown (f / powerOfTen largestPower) fuel (k - largestPower)

/-- The magnitude `significand · 10 ^ exponent`, unless it is infinite. -/
def scaled? (significand : Nat) (exponent : Int) : Option Float :=
  let f := (UInt64.ofNat significand).toFloat
  if exponent < 0 then some (scaleDown f 8 (-exponent).toNat)
  else if exponent.toNat ≤ largestPower then
    let r := f * powerOfTen exponent.toNat
    if r.isInf then none else some r
  else if f == 0 then some f
  else none

/-- The bits of a number given by its sign and magnitude. -/
def signedBits (negative : Bool) (f : Float) : UInt64 :=
  (if negative then -f else f).toBits

end StageRelay.Decimal
