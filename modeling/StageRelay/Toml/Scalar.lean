import StageRelay.Text.Hex
import StageRelay.Toml.Basic

/-!
# The words of TOML

Blanks, comments, strings, numbers and points in time. A reader takes the beginning of a text and
gives the rest, or nothing if the text does not begin as it has to.
-/

namespace StageRelay.Toml

/-- Reads the beginning of a text. -/
abbrev Reader (α : Type) := List Char → Option (α × List Char)

/-! ## Lines -/

/-- The space within a line. -/
def isSpace (c : Char) : Bool :=
  c == ' ' || c == '\t'

/-- Whether a character may stand in a comment. -/
def isText (c : Char) : Bool :=
  c == '\t' || (' ' ≤ c && c != '\x7f')

/-- The text after the space at its beginning. -/
def skipSpace (cs : List Char) : List Char :=
  cs.dropWhile isSpace

/-- The text after the end of a line. -/
def newline? : List Char → Option (List Char)
  | '\n' :: rest => some rest
  | '\r' :: '\n' :: rest => some rest
  | _ => none

/-- The text without the comment at its beginning. -/
def skipComment : List Char → List Char
  | '#' :: rest => rest.dropWhile isText
  | cs => cs

/-- The text after a line in which nothing more is said; the last line need not be ended. -/
def endLine? (cs : List Char) : Option (List Char) :=
  match skipComment (skipSpace cs) with
  | [] => some []
  | cs => newline? cs

/-- The text after space, ends of lines and comments. -/
def skipLines : Nat → List Char → List Char
  | 0, cs => cs
  | fuel + 1, cs =>
    match newline? (skipComment (skipSpace cs)) with
    | some rest => skipLines fuel rest
    | none => skipSpace cs

/-! ## Strings -/

/-- The character with a number. -/
def scalar? (n : Nat) : Option Char :=
  if n < 0xd800 || (0xe000 ≤ n && n < 0x110000) then some (Char.ofNat n) else none

/-- Reads a character given by a number of hexadecimal digits. -/
def readScalar (digits : Nat) : Reader Char := fun cs ↦ do
  if cs.length < digits then none
  let c ← scalar? (← Text.hexNumber? (cs.take digits))
  return (c, cs.drop digits)

/-- Reads what follows a backslash. -/
def readEscape : Reader Char
  | 'b' :: rest => some ('\x08', rest)
  | 't' :: rest => some ('\t', rest)
  | 'n' :: rest => some ('\n', rest)
  | 'f' :: rest => some ('\x0c', rest)
  | 'r' :: rest => some ('\r', rest)
  | '"' :: rest => some ('"', rest)
  | '\\' :: rest => some ('\\', rest)
  | 'u' :: rest => readScalar 4 rest
  | 'U' :: rest => readScalar 8 rest
  | _ => none

/-- Reads a string of one line after its quote. `fuel` bounds the number of characters, and `done`
holds those read so far, last one first. -/
def readBasic : Nat → List Char → Reader String
  | 0, _, _ => none
  | _, done, '"' :: rest => some (String.ofList done.reverse, rest)
  | fuel + 1, done, '\\' :: rest => do
    let (c, rest) ← readEscape rest
    readBasic fuel (c :: done) rest
  | fuel + 1, done, c :: rest => if isText c then readBasic fuel (c :: done) rest else none
  | _, _, [] => none

/-- Reads a string of one line without escapes after its quote. -/
def readLiteral : Reader String := fun cs ↦
  let isInside (c : Char) : Bool := isText c && c != '\''
  match cs.dropWhile isInside with
  | '\'' :: rest => some (String.ofList (cs.takeWhile isInside), rest)
  | _ => none

/-- Ends a string of several lines at three quotes; two more quotes may still belong to it. -/
def closeLong (quote : Char) (done rest : List Char) : String × List Char :=
  match rest with
  | a :: b :: rest' =>
    if a = quote ∧ b = quote then (String.ofList (b :: a :: done).reverse, rest')
    else if a = quote then (String.ofList (a :: done).reverse, b :: rest')
    else (String.ofList done.reverse, rest)
  | [a] =>
    if a = quote then (String.ofList (a :: done).reverse, [])
    else (String.ofList done.reverse, rest)
  | [] => (String.ofList done.reverse, [])

/-- Reads a string of several lines after its quotes. While `skipping`, space and ends of lines are
left out. -/
def readLong (quote : Char) : Nat → Bool → List Char → Reader String
  | 0, _, _, _ => none
  | fuel + 1, skipping, done, cs =>
    match newline? cs with
    | some rest => readLong quote fuel skipping (if skipping then done else '\n' :: done) rest
    | none =>
      match cs with
      | [] => none
      | c :: rest =>
        if skipping && isSpace c then readLong quote fuel true done rest
        else if c = quote then
          if rest.take 2 = [quote, quote] then some (closeLong quote done (rest.drop 2))
          else readLong quote fuel false (c :: done) rest
        else if c = '\\' && quote = '"' then
          if (newline? (skipSpace rest)).isSome then readLong quote fuel true done rest
          else do
            let (c, rest) ← readEscape rest
            readLong quote fuel false (c :: done) rest
        else if isText c then readLong quote fuel false (c :: done) rest
        else none

/-- Starts a string of several lines; an end of line right after the quotes does not belong
to it. -/
def startLong (quote : Char) (cs : List Char) : Option (String × List Char) :=
  let cs := (newline? cs).getD cs
  readLong quote (cs.length + 1) false [] cs

/-- Reads a string of any kind. -/
def readString : Reader String
  | '"' :: '"' :: '"' :: rest => startLong '"' rest
  | '"' :: rest => readBasic (rest.length + 1) [] rest
  | '\'' :: '\'' :: '\'' :: rest => startLong '\'' rest
  | '\'' :: rest => readLiteral rest
  | _ => none

/-! ## Numbers -/

/-- The value of a digit of a base. -/
def digit? (base : Nat) (c : Char) : Option Nat := do
  let d ← Text.hexDigit? c
  if d < base then some d else none

/-- Reads digits after a digit; a low line may stand between two of them. The number so far is `n`,
and `k` digits were read. -/
def readMore (base : Nat) (n k : Nat) : Reader (Nat × Nat)
  | '_' :: c :: rest =>
    match digit? base c with
    | some d => readMore base (base * n + d) (k + 1) rest
    | none => none
  | c :: rest =>
    match digit? base c with
    | some d => readMore base (base * n + d) (k + 1) rest
    | none => some ((n, k), c :: rest)
  | [] => some ((n, k), [])

/-- Reads at least one digit: the number and how many digits it has. -/
def readDigits (base : Nat) : Reader (Nat × Nat)
  | [] => none
  | c :: rest => do
    let d ← digit? base c
    readMore base d 1 rest

/-- Reads a sign, if there is one, and whether it is negative. -/
def readSign : List Char → Bool × List Char
  | '+' :: rest => (false, rest)
  | '-' :: rest => (true, rest)
  | cs => (false, cs)

/-- Reads a decimal number without leading zeros. -/
def readDecimal : Reader Nat
  | '0' :: rest => some (0, rest)
  | cs => (readDigits 10 cs).map fun ((n, _), rest) ↦ (n, rest)

/-- An integer of 64 bits. -/
def integer? (i : Int) : Option Toml :=
  if -0x8000000000000000 ≤ i ∧ i < 0x8000000000000000 then some (.integer i) else none

/-- Reads an integer of a base after what marks the base. -/
def readBased (base : Nat) : Reader Toml := fun cs ↦ do
  let ((n, _), rest) ← readDigits base cs
  return (← integer? n, rest)

/-- Reads an integer. -/
def readInteger : Reader Toml
  | '0' :: 'x' :: rest => readBased 16 rest
  | '0' :: 'o' :: rest => readBased 8 rest
  | '0' :: 'b' :: rest => readBased 2 rest
  | cs => do
    let (negative, cs) := readSign cs
    let (n, rest) ← readDecimal cs
    return (← integer? (if negative then -(n : Int) else n), rest)

/-- The least magnitude that is rounded to infinity. -/
def infinityFrom : Nat := Nat.pow 2 1024 - Nat.pow 2 970

/-- Whether the decimal `significand · 10 ^ exponent` is rounded to infinity; `digits` is the number
of digits of the significand. -/
def isInfinite (significand digits : Nat) (exponent : Int) : Bool :=
  let scale := digits + exponent
  if significand = 0 ∨ scale < 300 then false
  else if 310 < scale then true
  else if exponent < 0 then infinityFrom * Nat.pow 10 (-exponent).toNat ≤ significand
  else infinityFrom ≤ significand * Nat.pow 10 exponent.toNat

/-- Reads an exponent after its mark. -/
def readExponent : Reader Int := fun cs ↦ do
  let (negative, cs) := readSign cs
  let ((n, _), rest) ← readDigits 10 cs
  return (if negative then -(n : Int) else n, rest)

/-- Reads an exponent, if there is one. -/
def readOptionalExponent : Reader Int
  | 'e' :: rest => readExponent rest
  | 'E' :: rest => readExponent rest
  | cs => some (0, cs)

/-- The number of digits of a number. -/
def digitCount (n : Nat) : Nat :=
  (Nat.toDigits 10 n).length

/-- Reads a number with a fraction or an exponent. One that is too large is refused. -/
def readFraction : Reader Toml := fun cs ↦ do
  let (negative, cs) := readSign cs
  let (whole, cs) ← readDecimal cs
  let (significand, places, rest) ← match cs with
    | '.' :: rest => do
      let ((n, k), rest) ← readDigits 10 rest
      pure (whole * Nat.pow 10 k + n, k, rest)
    | 'e' :: _ => pure (whole, 0, cs)
    | 'E' :: _ => pure (whole, 0, cs)
    | _ => none
  let (exponent, rest) ← readOptionalExponent rest
  if !negative && isInfinite significand (digitCount significand) (exponent - places) then none
  return (.float, rest)

/-- Reads a word. -/
def readWord (word : List Char) (v : Toml) : Reader Toml := fun cs ↦
  if cs.take word.length = word then some (v, cs.drop word.length) else none

/-- Reads the words for what is no finite number. -/
def readSpecial : Reader Toml := fun cs ↦
  let cs := (readSign cs).2
  (readWord "inf".toList .float cs).or (readWord "nan".toList .float cs)

/-! ## Points in time -/

/-- Reads a number of some digits within bounds. -/
def readField (digits low high : Nat) : Reader Nat := fun cs ↦ do
  let ds := cs.take digits
  if ds.length < digits || !ds.all Char.isDigit then none
  let n ← ds.foldlM (fun n c ↦ (digit? 10 c).map (10 * n + ·)) 0
  if low ≤ n ∧ n ≤ high then some (n, cs.drop digits) else none

/-- The text after a character. -/
def after? (c : Char) : List Char → Option (List Char)
  | d :: rest => if d = c then some rest else none
  | [] => none

/-- The days of a month. -/
def daysIn (year month : Nat) : Nat :=
  if month = 2 then
    if year % 4 = 0 ∧ (year % 100 ≠ 0 ∨ year % 400 = 0) then 29 else 28
  else if month = 4 ∨ month = 6 ∨ month = 9 ∨ month = 11 then 30
  else 31

/-- The text after a date. -/
def date? (cs : List Char) : Option (List Char) := do
  let (year, cs) ← readField 4 0 9999 cs
  let (month, cs) ← readField 2 1 12 (← after? '-' cs)
  let (_, cs) ← readField 2 1 (daysIn year month) (← after? '-' cs)
  return cs

/-- The text after a fraction of a second, if there is one. -/
def skipFraction : List Char → List Char
  | '.' :: c :: rest => if c.isDigit then rest.dropWhile Char.isDigit else '.' :: c :: rest
  | cs => cs

/-- The text after a time of day. -/
def time? (cs : List Char) : Option (List Char) := do
  let (_, cs) ← readField 2 0 23 cs
  let (_, cs) ← readField 2 0 59 (← after? ':' cs)
  let (_, cs) ← readField 2 0 60 (← after? ':' cs)
  return skipFraction cs

/-- The text after an offset, if there is one. -/
def offset? : List Char → Option (List Char)
  | 'Z' :: rest => some rest
  | 'z' :: rest => some rest
  | c :: rest =>
    if c = '+' || c = '-' then do
      let (_, cs) ← readField 2 0 23 rest
      let (_, cs) ← readField 2 0 59 (← after? ':' cs)
      return cs
    else some (c :: rest)
  | [] => some []

/-- Reads a point in time: a date, a time, or both with or without an offset. -/
def readMoment : Reader Toml := fun cs ↦
  match date? cs with
  | some (c :: rest) =>
    if c = 'T' || c = 't' || c = ' ' then
      match time? rest with
      | some rest => (offset? rest).map (.moment, ·)
      | none => some (.moment, c :: rest)
    else some (.moment, c :: rest)
  | some [] => some (.moment, [])
  | none => (time? cs).map (.moment, ·)

/-- Reads a number or a point in time. -/
def readNumeric : Reader Toml := fun cs ↦
  ((readMoment cs).or ((readFraction cs).or (readSpecial cs))).or (readInteger cs)

end StageRelay.Toml
