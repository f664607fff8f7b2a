import StageRelay.Trie

/-!
# Base64

Blanks between the digits are passed over. The padding at the end may be left out, but padding that
does not fill the last group is refused. Bits beyond the last byte are ignored.
-/

namespace StageRelay.Base64

/-- The value of a digit. -/
def digit? (c : Char) : Option Nat :=
  if 'A' ≤ c ∧ c ≤ 'Z' then some (c.toNat - 65)
  else if 'a' ≤ c ∧ c ≤ 'z' then some (c.toNat - 71)
  else if '0' ≤ c ∧ c ≤ '9' then some (c.toNat + 4)
  else if c = '+' then some 62
  else if c = '/' then some 63
  else none

/-- The characters that are passed over. -/
def isBlank (c : Char) : Bool :=
  c == ' ' || c == '\t' || c == '\n' || c == '\r'

/-- The bytes of digits in groups of four, of which the last one may be shorter; none if a single
digit is left. -/
def bytesOf? : List Nat → Option Bytes
  | [] => some []
  | [_] => none
  | [a, b] => some [.ofNat (4 * a + b / 16)]
  | [a, b, c] => some [.ofNat (4 * a + b / 16), .ofNat (16 * (b % 16) + c / 4)]
  | a :: b :: c :: d :: rest =>
    (bytesOf? rest).map fun bs ↦
      .ofNat (4 * a + b / 16) :: .ofNat (16 * (b % 16) + c / 4) :: .ofNat (64 * (c % 4) + d) :: bs

/-- The bytes that a text denotes. -/
def decode? (cs : List Char) : Option Bytes := do
  let cs := cs.filter fun c ↦ !isBlank c
  let body := cs.takeWhile fun c ↦ (digit? c).isSome
  let padding := cs.dropWhile fun c ↦ (digit? c).isSome
  if !padding.all (· == '=') then none
  if !padding.isEmpty && (padding.length + body.length % 4 ≠ 4) then none
  bytesOf? (body.filterMap digit?)

end StageRelay.Base64
