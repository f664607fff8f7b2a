import StageRelay.Certificate.Der

/-!
# X.509 certificates

Of a certificate only the common names of its subject and its alternative names are kept, but all of
it has to be in order. The name of the issuer and that of the subject are read up to the first part
that is not; alternative names have to be in order from the first to the last.
-/

namespace StageRelay.X509

open Der

/-! ## Times -/

/-- The value of a decimal digit. -/
def digit? (b : UInt8) : Option Nat :=
  if 48 ≤ b && b ≤ 57 then some (b.toNat - 48) else none

/-- Reads two decimal digits. -/
def readPair : Reader Nat
  | a :: b :: rest => do
    let a ← digit? a
    let b ← digit? b
    return (10 * a + b, rest)
  | _ => none

/-- Whether bytes are a time zone: the letter Z, or a sign and hours and minutes. -/
def isZone : Bytes → Bool
  | [90] => true
  | [sign, a, b, c, d] =>
    (sign == 43 || sign == 45) &&
      match readPair [a, b, c, d] with
      | some (hours, rest) =>
        match readPair rest with
        | some (minutes, _) => hours ≤ 12 && minutes ≤ 59
        | none => false
      | none => false
  | _ => false

/-- The days of a month. -/
def daysIn (year month : Nat) : Nat :=
  if month = 2 then
    if year % 4 = 0 ∧ (year % 100 ≠ 0 ∨ year % 400 = 0) then 29 else 28
  else if month = 4 ∨ month = 6 ∨ month = 9 ∨ month = 11 then 30
  else 31

/-- Drops a fraction of a second: a point and at least one digit. -/
def dropFraction : Bytes → Bytes
  | 46 :: b :: rest =>
    if (digit? b).isSome then rest.dropWhile fun b ↦ (digit? b).isSome else 46 :: b :: rest
  | bs => bs

/-- Whether bytes after the year are a time: month, day, hour, minute, possibly seconds, and
a zone. -/
def isTimeOf (year : Nat) (fraction : Bool) (bs : Bytes) : Bool :=
  (do
    let (month, bs) ← readPair bs
    let (day, bs) ← readPair bs
    let (hour, bs) ← readPair bs
    let (minute, bs) ← readPair bs
    let (second, bs) := (readPair bs).getD (0, bs)
    let bs := if fraction then dropFraction bs else bs
    return 1 ≤ month && month ≤ 12 && 1 ≤ day && day ≤ daysIn year month && hour ≤ 23
      && minute ≤ 59 && second ≤ 59 && isZone bs : Option Bool).getD false

/-- Whether an element is a time, with two or with four digits of the year. -/
def isTime (e : Element) : Bool :=
  if e.tag = tags.utcTime then
    match readPair e.content with
    | some (year, rest) => isTimeOf (if 50 ≤ year then 1900 + year else 2000 + year) false rest
    | none => false
  else if e.tag = tags.generalizedTime then
    match readPair e.content with
    | some (century, rest) =>
      match readPair rest with
      | some (year, rest) => isTimeOf (100 * century + year) true rest
      | none => false
    | none => false
  else false

/-- Reads a time. -/
def readTime : Reader Unit := fun bs ↦ do
  let (e, bs) ← readElement bs
  if isTime e then some ((), bs) else none

/-! ## Names -/

/-- An attribute of a name. -/
structure Attribute where
  oid : Bytes
  value : Element
deriving Repr

/-- Reads an attribute. -/
def readAttribute : Reader Attribute :=
  within tags.sequence fun bs ↦ do
    let (oid, bs) ← readPrimitive tags.oid bs
    let (value, bs) ← readElement bs
    return (⟨oid, value⟩, bs)

/-- Reads a part of a name: at least one attribute. -/
def readRelativeName : Reader (List Attribute) :=
  within tags.set fun bs ↦
    match many readAttribute bs.length bs with
    | ([], _) => none
    | r => some r

/-- Reads a name up to its first part that is not in order. -/
def readName : Reader (List Attribute) :=
  within tags.sequence fun bs ↦
    let (parts, rest) := many readRelativeName bs.length bs
    some (parts.flatten, rest)

/-- The attribute type of common names. -/
def commonName : Bytes := [0x55, 4, 3]

/-- The text of an attribute, if it is of a type that is read as text. -/
def Attribute.text? (a : Attribute) : Option (List Char) :=
  if [tags.utf8String, tags.printableString, tags.numericString,
      tags.ia5String].contains a.value.tag
  then a.value.content.text?
  else none

/-! ## Alternative names -/

/-- An alternative name, as far as it can name a server. -/
inductive AltName where
  | dns (name : List Char)
  | uri (uri : List Char)
  | address (bytes : Bytes)
  | other
deriving Repr

/-- The class of tags that depend on the context. -/
def contextClass : Nat := 2

/-- The alternative name that an element is. -/
def AltName.ofElement? (e : Element) : Option AltName :=
  if e.tagClass ≠ contextClass then none
  else
    match e.tag with
    | 0 => (readPrimitive tags.oid e.content).map fun _ ↦ .other
    | 1 => e.content.text?.map fun _ ↦ .other
    | 2 => e.content.text?.map .dns
    | 3 => some .other
    | 4 =>
      match readName e.content with
      | some (_, []) => some .other
      | _ => none
    | 5 => some .other
    | 6 => e.content.text?.map .uri
    | 7 => some (.address e.content)
    | 8 => some .other
    | _ => none

/-- Reads an alternative name. -/
def readAltName : Reader AltName := fun bs ↦ do
  let (e, bs) ← readElement bs
  let name ← AltName.ofElement? e
  return (name, bs)

/-- The alternative names that the value of an extension lists. -/
def altNames? (value : Bytes) : Option (List AltName) := do
  let (content, _) ← readTagged tags.sequence value
  all? readAltName content

/-! ## Certificates -/

/-- An extension. -/
structure Extension where
  oid : Bytes
  value : Bytes
deriving Repr

/-- Reads the mark of a critical extension, if there is one. -/
def skipCritical (bs : Bytes) : Bytes :=
  match readElement bs with
  | some (e, rest) =>
    if e.tag = tags.boolean && !e.constructed && e.content.length = 1 then rest else bs
  | none => bs

/-- Reads an extension. -/
def readExtension : Reader Extension :=
  within tags.sequence fun bs ↦ do
    let (oid, bs) ← readPrimitive tags.oid bs
    let (value, bs) ← readPrimitive tags.octetString (skipCritical bs)
    return (⟨oid, value⟩, bs)

/-- The tag of the extensions of a certificate. -/
def extensionsTag : Nat := 3

/-- The extensions that end a certificate body, after which nothing may follow. -/
def extensions? (bs : Bytes) : Option (List Extension) :=
  match bs with
  | [] => some []
  | _ => do
    let (((_, _, tag), _), bs) ← readHeader bs
    if tag ≠ extensionsTag then none
    let (content, rest) ← readTagged tags.sequence bs
    if !rest.isEmpty then none
    all? readExtension content

/-- Skips an element of the context with a given tag that holds bits, if it comes next. -/
def skipUniqueId (tag : Nat) (bs : Bytes) : Option Bytes :=
  match bs with
  | [] => some []
  | _ => do
    let (e, rest) ← readElement bs
    if e.tag = tag ∧ e.tagClass = contextClass then
      if isBitString e.content then some rest else none
    else some bs

/-- Reads the version of a certificate, if it gives one. -/
def skipVersion (bs : Bytes) : Option Bytes := do
  let (e, rest) ← readElement bs
  if e.tag = 0 ∧ e.tagClass = contextClass then
    let _ ← readWord e.content
    return rest
  else return bs

/-- Reads an algorithm. -/
def readAlgorithm : Reader Unit :=
  within tags.sequence fun bs ↦ do
    let (_, bs) ← readPrimitive tags.oid bs
    if bs.isEmpty then return ((), bs)
    let (_, bs) ← readElement bs
    return ((), bs)

/-- Reads the two times between which a certificate is valid. -/
def readValidity : Reader Unit :=
  within tags.sequence fun bs ↦ do
    let (_, bs) ← readTime bs
    readTime bs

/-- Reads a public key. -/
def readPublicKey : Reader Unit :=
  within tags.sequence fun bs ↦ do
    let (_, bs) ← readAlgorithm bs
    let (_, bs) ← readBitString bs
    return ((), bs)

/-- What is kept of a certificate. -/
structure Certificate where
  subject : List Attribute
  extensions : List Extension
deriving Repr

/-- Reads the body of a certificate. -/
def readBody : Reader Certificate :=
  within tags.sequence fun bs ↦ do
    let bs ← skipVersion bs
    let (_, bs) ← readTagged tags.integer bs
    let (_, bs) ← readAlgorithm bs
    let (_, bs) ← readName bs
    let (_, bs) ← readValidity bs
    let (subject, bs) ← readName bs
    let (_, bs) ← readPublicKey bs
    let bs ← skipUniqueId 1 bs
    let bs ← skipUniqueId 2 bs
    let extensions ← extensions? bs
    return (⟨subject, extensions⟩, [])

/-- The certificate that bytes begin with. -/
def parse? (bs : Bytes) : Option Certificate := do
  let (certificate, _) ← within tags.sequence (fun bs ↦ do
    let (certificate, bs) ← readBody bs
    let (_, bs) ← readAlgorithm bs
    let (_, bs) ← readBitString bs
    return (certificate, bs)) bs
  return certificate

/-- The extension of alternative names. -/
def subjectAltName : Bytes := [0x55, 0x1d, 17]

namespace Certificate

/-- The alternative names of a certificate; none if they are not in order or given twice. -/
def altNames? (c : Certificate) : Option (List AltName) :=
  match c.extensions.filter fun e ↦ e.oid = subjectAltName with
  | [] => some []
  | [e] => X509.altNames? e.value
  | _ => none

/-- The common names of the subject that are read as text. -/
def commonNames (c : Certificate) : List (List Char) :=
  (c.subject.filter fun a ↦ a.oid = commonName).filterMap Attribute.text?

end Certificate

end StageRelay.X509
