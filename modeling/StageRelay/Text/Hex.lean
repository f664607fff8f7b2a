/-!
# Hexadecimal digits

Reading a digit, writing one, and bytes as pairs of digits.
-/

namespace StageRelay.Text

/-- The value of a hexadecimal digit of either case. -/
def hexDigit? (c : Char) : Option Nat :=
  if '0' ≤ c ∧ c ≤ '9' then some (c.toNat - 48)
  else if 'a' ≤ c ∧ c ≤ 'f' then some (c.toNat - 87)
  else if 'A' ≤ c ∧ c ≤ 'F' then some (c.toNat - 55)
  else none

/-- The number that hexadecimal digits denote, most significant first. -/
def hexNumber? (cs : List Char) : Option Nat :=
  cs.foldlM (fun n c ↦ (hexDigit? c).map (16 * n + ·)) 0

/-- The digits of a number in lower case, without leading zeros. -/
def hexOf (n : Nat) : List Char :=
  Nat.toDigits 16 n

/-- The bytes written as pairs of digits; none if the digits do not pair up. -/
def bytesOfHex? : List Char → Option (List UInt8)
  | [] => some []
  | [_] => none
  | h :: l :: rest => do
    let high ← hexDigit? h
    let low ← hexDigit? l
    return UInt8.ofNat (16 * high + low) :: (← bytesOfHex? rest)

end StageRelay.Text
