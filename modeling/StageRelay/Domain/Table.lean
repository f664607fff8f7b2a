import StageRelay.Text.Hex

/-!
# Tables of code points

Numbers written in hexadecimal with blanks between them, and ranges and records made of them.
-/

namespace StageRelay.Domain

/-- The numbers that a text lists. -/
def numbers (s : String) : List Nat :=
  let step (state : List Nat × Option Nat) (c : Char) : List Nat × Option Nat :=
    match Text.hexDigit? c with
    | some d => (state.1, some (16 * state.2.getD 0 + d))
    | none => (state.2.toList ++ state.1, none)
  let (done, last) := s.toList.foldl step ([], none)
  (last.toList ++ done).reverse

/-- Numbers taken two at a time. -/
def pairs : List Nat → List (Nat × Nat)
  | a :: b :: rest => (a, b) :: pairs rest
  | _ => []

/-- Numbers taken three at a time. -/
def triples : List Nat → List (Nat × Nat × Nat)
  | a :: b :: c :: rest => (a, b, c) :: triples rest
  | _ => []

/-- Whether a number is in one of the ranges. -/
def inRanges (ranges : Array (Nat × Nat)) (n : Nat) : Bool :=
  ranges.any fun r ↦ r.1 ≤ n && n ≤ r.2

end StageRelay.Domain
