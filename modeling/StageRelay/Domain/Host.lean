import StageRelay.Bytes
import StageRelay.Domain.Ascii
import StageRelay.Sni.Address

/-!
# Hosts

The host in a URI is a domain name or an address. A name is freed from escapes and written in ASCII;
one whose last label is a number has to be an address of version four, of which each part may be
decimal, octal or hexadecimal and the last one may stand for several bytes.
-/

namespace StageRelay.Host

/-! ## Escapes -/

/-- The bytes of a text in which two hexadecimal digits after a percent sign stand for a byte. -/
def unescape : Bytes → Bytes
  | [] => []
  | [b] => [b]
  | [b, c] => [b, c]
  | b :: h :: l :: rest =>
    let digit? (b : UInt8) := Text.hexDigit? (Char.ofNat b.toNat)
    match if b = 0x25 then digit? h else none, digit? l with
    | some h, some l => UInt8.ofNat (16 * h + l) :: unescape rest
    | _, _ => b :: unescape (h :: l :: rest)

/-- An escaped byte. -/
def escapeByte (b : UInt8) : List Char :=
  let digits := (Text.hexOf b.toNat).map Char.toUpper
  '%' :: List.replicate (2 - digits.length) '0' ++ digits

/-- The text with controls and characters that are not ASCII escaped. -/
def escape (cs : List Char) : List Char :=
  cs.flatMap fun c ↦
    if 0x20 ≤ c.toNat && c.toNat < 0x7f then [c] else (Bytes.ofText [c]).flatMap escapeByte

/-! ## Numbers -/

/-- The number that the part of an address denotes. -/
def number? (cs : List Char) : Option Nat :=
  let read (base : Nat) (cs : List Char) : Option Nat :=
    cs.foldlM (fun n c ↦ do
      let d ← Text.hexDigit? c
      if d < base then some (base * n + d) else none) 0
  match cs with
  | [] => none
  | ['0'] => some 0
  | '0' :: 'x' :: cs => read 16 cs
  | '0' :: 'X' :: cs => read 16 cs
  | '0' :: cs => read 8 cs
  | cs => read 10 cs

/-- The labels of a name without an empty one at the end. -/
def labels (cs : List Char) : List (List Char) :=
  let ls := Text.splitOn '.' cs
  if ls.getLast? = some [] then ls.dropLast else ls

/-- Whether the last label of a name is a number. -/
def endsInNumber (cs : List Char) : Bool :=
  (labels cs).getLast?.any fun l ↦ (!l.isEmpty && l.all Char.isDigit) || (number? l).isSome

/-- The address of version four that parts denote: one byte each, and the last one what is left. -/
def ofParts? (ns : List Nat) : Option Address := do
  let last ← ns.getLast?
  let front := ns.dropLast
  if 3 < front.length || front.any (255 < ·) || Nat.pow 256 (4 - front.length) ≤ last then none
  let n := front.foldr (fun a n ↦ (n + a * Nat.pow 256 4) / 256) 0 + last
  let byte (i : Nat) : UInt8 := .ofNat (n / Nat.pow 256 (3 - i))
  return .v4 (byte 0) (byte 1) (byte 2) (byte 3)

/-! ## Hosts -/

/-- The text of a host in a URI of a scheme that is known to name servers; an address in brackets is
left out, since nothing can be looked up by it. -/
def ofServer? (cs : List Char) : Option (List Char) := do
  if cs.head? = some '[' then none
  let name ← (unescape (Bytes.ofText cs)).text?.bind Domain.toAscii?
  if name.isEmpty then none
  if endsInNumber name then
    let ns ← (labels name).mapM number?
    return (← ofParts? ns).text
  else return name

/-- The characters that no host of an unknown scheme holds. -/
def isRefused (c : Char) : Bool :=
  "\x00\t\n\r #/:<>?@[\\]^|".toList.contains c

/-- The text of a host in a URI of another scheme, which is kept as it is. -/
def ofOther? (cs : List Char) : Option (List Char) :=
  if cs.isEmpty || cs.any isRefused then none else some (escape cs)

end StageRelay.Host
