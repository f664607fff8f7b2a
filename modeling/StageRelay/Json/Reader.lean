import StageRelay.Bytes
import StageRelay.Decimal.Scaled
import StageRelay.Json.Draft
import StageRelay.Text.Hex

/-!
# Reading JSON

A text is read into a draft and the rest of the text. Reading never fails: where the text goes wrong
the draft says how, and there is no rest.

Containers nest 127 levels deep at most. A deeper one has no value, but can be skipped.
-/

namespace StageRelay.Json

/-- The rest of a text, unless reading stopped. -/
abbrev Rest := Except Break (List Char)

/-- The space that may stand between the parts of a text. -/
def isSpace (c : Char) : Bool :=
  c == ' ' || c == '\n' || c == '\t' || c == '\r'

/-- The text from its next part on. -/
def skipSpace (cs : List Char) : List Char :=
  cs.dropWhile isSpace

/-- A place where the text goes wrong whatever is asked of it. -/
def stopAt (b : Break) : Draft × Rest :=
  (.faulty b (some b), .error b)

/-! ## Strings -/

/-- A string while it is read: the characters so far, last one first, the first half of a surrogate
pair whose second half has to come next, and whether an unpaired half was met. -/
structure Partial where
  chars : List Char := []
  high : Option Nat := none
  flawed : Bool := false

namespace Partial

/-- Adds a character. A first half before it stays unpaired. -/
def push (p : Partial) (c : Char) : Partial :=
  { chars := c :: p.chars, high := none, flawed := p.flawed || p.high.isSome }

/-- Adds a unit written as four digits. -/
def pushUnit (p : Partial) (n : Nat) : Partial :=
  match p.high with
  | some h =>
    if 0xdc00 ≤ n ∧ n < 0xe000 then
      { p with
        chars := Char.ofNat (0x10000 + 0x400 * (h - 0xd800) + (n - 0xdc00)) :: p.chars
        high := none }
    else { p with high := none, flawed := true }
  | none =>
    if 0xdc00 ≤ n ∧ n < 0xe000 then { p with flawed := true }
    else if 0xd800 ≤ n ∧ n < 0xdc00 then { p with high := some n }
    else { p with chars := Char.ofNat n :: p.chars }

/-- The string, if every surrogate is paired. -/
def close (p : Partial) : Option String :=
  if p.flawed || p.high.isSome then none else some (String.ofList p.chars.reverse)

end Partial

/-- The character that a letter after a backslash stands for. -/
def unescape : Char → Option Char
  | '"' => some '"'
  | '\\' => some '\\'
  | '/' => some '/'
  | 'b' => some '\x08'
  | 'f' => some '\x0c'
  | 'n' => some '\n'
  | 'r' => some '\r'
  | 't' => some '\t'
  | _ => none

/-- Why four digits cannot be read here: fewer than four bytes are left, or they are no digits. -/
def unitBreak (cs : List Char) : Break :=
  if (Bytes.ofText (cs.take 4)).length < 4 then .ended else .malformed

/-- Reads a string up to its closing quote: what was read, and the rest or why there is none. -/
def readString (p : Partial) : List Char → Partial × Rest
  | [] => (p, .error .ended)
  | '"' :: rest => (p, .ok rest)
  | ['\\'] => (p, .error .ended)
  | '\\' :: 'u' :: a :: b :: c :: d :: rest =>
    match Text.hexNumber? [a, b, c, d] with
    | some n => readString (p.pushUnit n) rest
    | none => (p, .error .malformed)
  | '\\' :: 'u' :: rest => (p, .error (unitBreak rest))
  | '\\' :: e :: rest =>
    match unescape e with
    | some c => readString (p.push c) rest
    | none => (p, .error .malformed)
  | c :: rest => if c.toNat < 0x20 then (p, .error .malformed) else readString (p.push c) rest

/-- The draft of a string that was read. -/
def draftOfString : Partial × Rest → Draft × Rest
  | (p, .ok rest) =>
    match p.close with
    | some s => (.string s, .ok rest)
    | none => (.faulty .malformed none, .ok rest)
  | (p, .error b) => (.faulty (if p.flawed then .malformed else b) (some b), .error b)

/-! ## Numbers -/

/-- The largest significand that is kept exactly. -/
def wordMax : Nat := 0xffffffffffffffff

/-- The value of a decimal digit. -/
def digit? (c : Char) : Option Nat :=
  if '0' ≤ c ∧ c ≤ '9' then some (c.toNat - 48) else none

/-- A decimal while it is read. -/
structure Significand where
  value : Nat
  exponent : Int
deriving Repr

/-- Takes digits before the point: those that no longer fit into a word only count. -/
def Significand.whole : Nat → List Char → Significand
  | n, [] => ⟨n, 0⟩
  | n, c :: rest =>
    let n' := 10 * n + (digit? c).getD 0
    if n' ≤ wordMax then whole n' rest else ⟨n, rest.length + 1⟩

/-- Takes digits after the point: from the first one that no longer fits they are dropped. -/
def Significand.fraction (s : Significand) : List Char → Significand
  | [] => s
  | c :: rest =>
    let n := 10 * s.value + (digit? c).getD 0
    if n ≤ wordMax then fraction ⟨n, s.exponent - 1⟩ rest else s

/-- A binary64 number as a draft; it has no value if it is infinite. -/
def draftOfFloat (negative : Bool) (s : Significand) : Draft :=
  match Decimal.scaled? s.value s.exponent with
  | some f => .number (.float (Decimal.signedBits negative f))
  | none => .faulty .malformed none

/-- A number without point and exponent. It is an integer if it fits into 64 bits; a negative zero
is none. -/
def draftOfInteger (negative : Bool) (s : Significand) : Draft :=
  if s.exponent ≠ 0 then draftOfFloat negative s
  else if !negative then .number (.int s.value)
  else if s.value ≠ 0 ∧ s.value ≤ 0x8000000000000000 then .number (.int (-(s.value : Int)))
  else draftOfFloat true s

/-- Whether digits denote a number of 31 bits. -/
def exponentFits : Nat → List Char → Option Nat
  | n, [] => some n
  | n, c :: rest =>
    let n' := 10 * n + (digit? c).getD 0
    if n' < 0x80000000 then exponentFits n' rest else none

/-- A number with an exponent, given by its sign and digits. -/
def draftOfExponent (negative : Bool) (s : Significand) (down : Bool) (ds : List Char) : Draft :=
  match exponentFits 0 ds with
  | some k => draftOfFloat negative ⟨s.value, if down then s.exponent - k else s.exponent + k⟩
  | none =>
    if s.value ≠ 0 ∧ !down then .faulty .malformed none
    else .number (.float (Decimal.signedBits negative 0))

/-- A number that lacks a digit: at the end of the text more could come, but a number that is only
passed has to be complete. -/
def lacksDigit (rest : List Char) : Draft × Rest :=
  if rest.isEmpty then (.faulty .ended (some .malformed), .error .ended) else stopAt .malformed

/-- Whether a text starts with a mark of an exponent. -/
def startsExponent : List Char → Bool
  | 'e' :: _ => true
  | 'E' :: _ => true
  | _ => false

/-- Reads the exponent after its mark. -/
def readExponent (negative : Bool) (s : Significand) (cs : List Char) : Draft × Rest :=
  let (down, ds) := match cs with
    | '+' :: rest => (false, rest)
    | '-' :: rest => (true, rest)
    | _ => (false, cs)
  let digits := ds.takeWhile Char.isDigit
  let rest := ds.dropWhile Char.isDigit
  if digits.isEmpty then lacksDigit rest else (draftOfExponent negative s down digits, .ok rest)

/-- Reads what follows the digits before the point. -/
def readAfterWhole (negative : Bool) (s : Significand) : List Char → Draft × Rest
  | '.' :: cs =>
    let digits := cs.takeWhile Char.isDigit
    let rest := cs.dropWhile Char.isDigit
    let s := s.fraction digits
    if digits.isEmpty then lacksDigit rest
    else if startsExponent rest then readExponent negative s (rest.drop 1)
    else (draftOfFloat negative s, .ok rest)
  | cs =>
    if startsExponent cs then readExponent negative s (cs.drop 1)
    else (draftOfInteger negative s, .ok cs)

/-- Reads a number after its sign. A leading zero stands alone. -/
def readNumber (negative : Bool) (cs : List Char) : Draft × Rest :=
  let digits := cs.takeWhile Char.isDigit
  let rest := cs.dropWhile Char.isDigit
  if digits.isEmpty then lacksDigit rest
  else if digits.head? = some '0' ∧ digits.length ≠ 1 then stopAt .malformed
  else readAfterWhole negative (Significand.whole 0 digits) rest

/-! ## Values -/

/-- Reads the letters of a word. -/
def readWord (d : Draft) : List Char → List Char → Draft × Rest
  | [], cs => (d, .ok cs)
  | _ :: _, [] => stopAt .ended
  | w :: word, c :: cs => if c = w then readWord d word cs else stopAt .malformed

/-- A container that nests too deep has no value. -/
def bounded (room : Nat) (d : Draft) : Draft :=
  if room = 0 then .faulty .malformed d.skip else d

/-- The fields of an object that starts with one more field; a container that stopped at it has this
field as its last one. -/
def consField (key : Option String) (d : Draft) :
    List (Option String × Draft) × Option Break × Rest →
      List (Option String × Draft) × Option Break × Rest
  | (fields, stop, rest) => ((key, d) :: fields, stop, rest)

mutual

/-- Reads a value. `fuel` bounds the number of steps and `room` the levels of nesting. -/
def readValue : Nat → Nat → List Char → Draft × Rest
  | 0, _, _ => stopAt .malformed
  | fuel + 1, room, cs =>
    match skipSpace cs with
    | [] => stopAt .ended
    | 'n' :: rest => readWord .null ['u', 'l', 'l'] rest
    | 't' :: rest => readWord (.bool true) ['r', 'u', 'e'] rest
    | 'f' :: rest => readWord (.bool false) ['a', 'l', 's', 'e'] rest
    | '"' :: rest => draftOfString (readString {} rest)
    | '-' :: rest => readNumber true rest
    | '[' :: rest =>
      let (items, stop, rest) := readItems fuel (room - 1) rest
      (bounded room (.array items stop), rest)
    | '\x7b' :: rest =>
      let (fields, stop, rest) := readFields fuel (room - 1) rest
      (bounded room (.object fields stop), rest)
    | c :: rest => if c.isDigit then readNumber false (c :: rest) else stopAt .malformed

/-- Reads the items of an array after its bracket. -/
def readItems : Nat → Nat → List Char → List Draft × Option Break × Rest
  | 0, _, _ => ([], some .malformed, .error .malformed)
  | fuel + 1, room, cs =>
    match skipSpace cs with
    | [] => ([], some .ended, .error .ended)
    | ']' :: rest => ([], none, .ok rest)
    | cs => readItem fuel room cs

/-- Reads one item and those after it. -/
def readItem : Nat → Nat → List Char → List Draft × Option Break × Rest
  | 0, _, _ => ([], some .malformed, .error .malformed)
  | fuel + 1, room, cs =>
    match readValue fuel room cs with
    | (d, .error b) => ([d], some b, .error b)
    | (d, .ok rest) =>
      match skipSpace rest with
      | [] => ([d], some .ended, .error .ended)
      | ']' :: rest => ([d], none, .ok rest)
      | ',' :: rest =>
        let (items, stop, rest) := readItem fuel room rest
        (d :: items, stop, rest)
      | _ => ([d], some .malformed, .error .malformed)

/-- Reads the fields of an object after its brace. -/
def readFields : Nat → Nat → List Char → List (Option String × Draft) × Option Break × Rest
  | 0, _, _ => ([], some .malformed, .error .malformed)
  | fuel + 1, room, cs =>
    match skipSpace cs with
    | [] => ([], some .ended, .error .ended)
    | '\x7d' :: rest => ([], none, .ok rest)
    | cs => readField fuel room cs

/-- Reads one field and those after it. -/
def readField : Nat → Nat → List Char → List (Option String × Draft) × Option Break × Rest
  | 0, _, _ => ([], some .malformed, .error .malformed)
  | fuel + 1, room, cs =>
    match skipSpace cs with
    | [] => ([], some .ended, .error .ended)
    | '"' :: rest =>
      match readString {} rest with
      | (p, .error b) =>
        (if p.flawed then [(none, .faulty .malformed (some b))] else [], some b, .error b)
      | (p, .ok rest) =>
        match skipSpace rest with
        | [] => ([(p.close, .faulty .ended (some .ended))], some .ended, .error .ended)
        | ':' :: rest =>
          match readValue fuel room rest with
          | (d, .error b) => ([(p.close, d)], some b, .error b)
          | (d, .ok rest) =>
            match skipSpace rest with
            | [] => ([(p.close, d)], some .ended, .error .ended)
            | '\x7d' :: rest => ([(p.close, d)], none, .ok rest)
            | ',' :: rest => consField p.close d (readField fuel room rest)
            | _ => ([(p.close, d)], some .malformed, .error .malformed)
        | _ =>
          ([(p.close, .faulty .malformed (some .malformed))], some .malformed, .error .malformed)
    | _ => ([], some .malformed, .error .malformed)

end

/-- The levels to which containers may nest. -/
def maxDepth : Nat := 127

/-- Reads a text that starts with a value. -/
def readText (cs : List Char) : Draft × Rest :=
  readValue (4 * cs.length + 4) maxDepth cs

/-- Whether nothing but space is left. -/
def atEnd : Rest → Bool
  | .ok rest => (skipSpace rest).isEmpty
  | .error _ => false

/-- The value that a text denotes. -/
def parse (s : String) : Except Break Json := do
  let (d, rest) := readText s.toList
  let v ← d.value
  if atEnd rest then return v else throw .malformed

end StageRelay.Json
