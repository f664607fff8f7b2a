import StageRelay.Bytes

/-!
# DER

Elements with a tag, a length and a content. Lengths are definite, but need not be as short as
possible; what an element holds is up to its reader. A sequence may hold more than its reader takes.
-/

namespace StageRelay.Der

/-- An element without its length. -/
structure Element where
  /-- 0 for universal tags, 2 for those that depend on the context. -/
  tagClass : Nat
  constructed : Bool
  tag : Nat
  content : Bytes
deriving DecidableEq, Repr

/-- A reader of the beginning of some bytes. -/
abbrev Reader (α : Type) := Bytes → Option (α × Bytes)

/-- The number that bytes denote, most significant first. -/
def number (bs : Bytes) : Nat :=
  bs.foldl (fun n b ↦ 256 * n + b.toNat) 0

/-- Reads the rest of a tag that does not fit into one byte. -/
def readLongTag (n : Nat) : Bytes → Option (Nat × Bytes)
  | [] => none
  | b :: rest =>
    let n := 128 * n + b.toNat % 128
    if b < 128 then some (n, rest) else readLongTag n rest

/-- Reads a tag: its class, whether it is constructed, and its number. -/
def readTag : Reader (Nat × Bool × Nat)
  | [] => none
  | b :: rest =>
    let tagClass := b.toNat / 64
    let constructed := b.toNat / 32 % 2 = 1
    if b.toNat % 32 = 31 then
      (readLongTag 0 rest).map fun (n, rest) ↦ ((tagClass, constructed, n), rest)
    else some ((tagClass, constructed, b.toNat % 32), rest)

/-- Reads a definite length of at most eight significant bytes. -/
def readLength : Reader Nat
  | [] => none
  | b :: rest =>
    if b < 128 then some (b.toNat, rest)
    else
      let count := b.toNat - 128
      if count = 0 || count = 127 || rest.length < count then none
      else
        let n := number (rest.take count)
        if n < 0x10000000000000000 then some (n, rest.drop count) else none

/-- Reads the tag and length of an element. -/
def readHeader : Reader ((Nat × Bool × Nat) × Nat) := fun bs ↦ do
  let (tag, bs) ← readTag bs
  let (length, bs) ← readLength bs
  return ((tag, length), bs)

/-- Reads an element. -/
def readElement : Reader Element := fun bs ↦ do
  let (((tagClass, constructed, tag), length), bs) ← readHeader bs
  if bs.length < length then none
  return (⟨tagClass, constructed, tag, bs.take length⟩, bs.drop length)

/-- Tags of the universal class. -/
structure Tags where
  boolean : Nat := 1
  integer : Nat := 2
  bitString : Nat := 3
  octetString : Nat := 4
  oid : Nat := 6
  utf8String : Nat := 12
  sequence : Nat := 16
  set : Nat := 17
  numericString : Nat := 18
  printableString : Nat := 19
  ia5String : Nat := 22
  utcTime : Nat := 23
  generalizedTime : Nat := 24

/-- The numbers of the tags in use. -/
def tags : Tags := {}

/-- Reads the content of an element with a given tag. -/
def readTagged (tag : Nat) : Reader Bytes := fun bs ↦ do
  let (e, bs) ← readElement bs
  if e.tag = tag then some (e.content, bs) else none

/-- Reads the content of an element that is not made of others. -/
def readPrimitive (tag : Nat) : Reader Bytes := fun bs ↦ do
  let (e, bs) ← readElement bs
  if e.tag = tag && !e.constructed then some (e.content, bs) else none

/-- Reads an element with a given tag by reading its content, and ignores what is left of that. -/
def within {α : Type} (tag : Nat) (r : Reader α) : Reader α := fun bs ↦ do
  let (content, bs) ← readTagged tag bs
  let (a, _) ← r content
  return (a, bs)

/-- Reads as often as it goes; a reader that takes nothing ends the run. `fuel` bounds the count. -/
def many {α : Type} (r : Reader α) : Nat → Bytes → List α × Bytes
  | 0, bs => ([], bs)
  | fuel + 1, bs =>
    match r bs with
    | none => ([], bs)
    | some (a, rest) =>
      if rest.length < bs.length then
        let (as, rest) := many r fuel rest
        (a :: as, rest)
      else ([], bs)

/-- Reads as often as it goes, and nothing may be left. -/
def all? {α : Type} (r : Reader α) (bs : Bytes) : Option (List α) :=
  match many r bs.length bs with
  | (as, []) => some as
  | _ => none

/-- Whether the content of an integer is as short as possible. -/
def isMinimalInteger : Bytes → Bool
  | [] => false
  | [_] => true
  | 0 :: b :: _ => 128 ≤ b
  | 255 :: b :: _ => b < 128
  | _ => true

/-- Reads an integer from 0 to 2 ^ 32 - 1. -/
def readWord : Reader Nat := fun bs ↦ do
  let (content, bs) ← readPrimitive tags.integer bs
  if !isMinimalInteger content then none
  if content.head?.any (128 ≤ ·) then none
  if number content < 0x100000000 then some (number content, bs) else none

/-- Whether the first `n` bits from the end of a byte are zero. -/
def endsInZeros (n : Nat) (b : UInt8) : Bool :=
  n ≤ 8 && b.toNat % Nat.pow 2 n = 0

/-- Whether the content of a bit string says that its unused bits are zero. -/
def isBitString : Bytes → Bool
  | [] => false
  | [unused] => unused = 0
  | unused :: b :: rest => endsInZeros unused.toNat ((b :: rest).getLast (by simp))

/-- Reads a bit string. -/
def readBitString : Reader Bytes := fun bs ↦ do
  let (content, bs) ← readPrimitive tags.bitString bs
  if isBitString content then some (content.drop 1, bs) else none

end StageRelay.Der
