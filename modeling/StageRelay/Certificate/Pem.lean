import StageRelay.Certificate.Base64
import StageRelay.Text.Split

/-!
# PEM

A text holds sections between a line that begins one and a line that ends it; other lines around
them are passed over. Only the labels that are in use for keys, certificates and requests count: a
section of another kind is skipped whatever is in it.
-/

namespace StageRelay.Pem

/-- Why a section is broken. -/
inductive Error where
  /-- A section is not ended. -/
  | unended (label : String)
  /-- A line starts like one that begins a section, but does not end like one. -/
  | badStart
  | badBase64
deriving DecidableEq, Repr

/-- The label of a certificate. -/
def certificateLabel : List Char := "CERTIFICATE".toList

/-- The labels of sections that count. -/
def knownLabels : List (List Char) :=
  [certificateLabel, "PUBLIC KEY".toList, "RSA PRIVATE KEY".toList, "PRIVATE KEY".toList,
    "EC PRIVATE KEY".toList, "X509 CRL".toList, "CERTIFICATE REQUEST".toList, "ECHCONFIG".toList]

/-- Lines with the character that ends them; either end-of-line character ends a line. -/
def linesOf : List Char → List (List Char)
  | [] => []
  | c :: cs =>
    if c = '\n' ∨ c = '\r' then [c] :: linesOf cs
    else
      match linesOf cs with
      | [] => [[c]]
      | line :: rest => (c :: line) :: rest

/-- How a line that begins a section starts. -/
def startMark : List Char := "-----BEGIN ".toList

/-- The number of dashes at the end of a reversed line, and what is before them. Blanks and the end
of the line do not count. -/
def trailer : Nat → List Char → Nat × List Char
  | n, '-' :: cs => trailer (n + 1) cs
  | n, c :: cs =>
    if c = ' ' ∨ c = '\n' ∨ c = '\r' then
      let (n', rest) := trailer n cs
      if n' = n then (n, c :: cs) else (n', rest)
    else (n, c :: cs)
  | n, [] => (n, [])

/-- What a line is. -/
inductive Line where
  | start (label : List Char)
  | badStart
  | other

/-- Tells lines that begin a section from others. -/
def classify (line : List Char) : Line :=
  match Text.strip? startMark line with
  | none => .other
  | some _ =>
    let (dashes, rest) := trailer 0 line.reverse
    if dashes = 5 then .start (rest.reverse.drop startMark.length) else .badStart

/-- Whether a line ends the section of a label. -/
def ends (label line : List Char) : Bool :=
  (Text.strip? ("-----END ".toList ++ label ++ "-----".toList) line).isSome

/-- A section that counts. -/
structure Section where
  label : List Char
  der : Bytes
deriving Repr

/-- The first section that counts, and the lines after it. `inside` is the label of the section that
was begun and `body` what it holds so far. -/
def next (inside : Option (List Char)) (body : List Char) :
    List (List Char) → Except Error (Option (Section × List (List Char)))
  | [] =>
    match inside with
    | some label => .error (.unended (String.ofList label))
    | none => .ok none
  | line :: rest =>
    match classify line with
    | .badStart => .error .badStart
    | .start label => next (some label) body rest
    | .other =>
      match inside with
      | none => next none body rest
      | some label =>
        if ends label line then
          if knownLabels.contains label then
            match Base64.decode? body with
            | some der => .ok (some (⟨label, der⟩, rest))
            | none => .error .badBase64
          else next none [] rest
        else next inside (body ++ line) rest

/-- The first certificate among lines. `fuel` bounds the number of sections. -/
def certificateIn : Nat → List (List Char) → Except Error (Option Bytes)
  | 0, _ => .ok none
  | fuel + 1, lines => do
    match ← next none [] lines with
    | none => return none
    | some (s, rest) =>
      if s.label = certificateLabel then return some s.der else certificateIn fuel rest

/-- The first certificate of a text. -/
def certificate? (text : String) : Except Error (Option Bytes) :=
  let lines := linesOf text.toList
  certificateIn (lines.length + 1) lines

end StageRelay.Pem
