import StageRelay.Domain.ClassData
import StageRelay.Domain.Composition
import StageRelay.Domain.MappingData
import StageRelay.Domain.Punycode
import StageRelay.Text.Split

/-!
# Domain names in ASCII

Every character of a domain name is mapped to those that take its place, the result is composed, and
each label that is not ASCII is written in Punycode. A label that is already in Punycode has to
denote what such a label could be made of. In a name with characters that run from right to left,
every label has to have a clear direction.
-/

namespace StageRelay.Domain

/-- Characters that map to one character each: first, count, step, step of targets, first target. -/
structure Run where
  first : Nat
  count : Nat
  step : Nat
  targetStep : Nat
  target : Nat

/-- Numbers taken five at a time. -/
def runsOf : List Nat → List Run
  | a :: b :: c :: d :: e :: rest => ⟨a, b, c, d, e⟩ :: runsOf rest
  | _ => []

/-- The target of a character in a run. -/
def Run.find? (r : Run) (n : Nat) : Option Nat :=
  let offset := n - r.first
  if n < r.first || offset % r.step ≠ 0 || r.count ≤ offset / r.step then none
  else some (r.target + offset / r.step * r.targetStep)

/-- Characters and the lists they map to; `fuel` bounds their number. -/
def listsOf : Nat → List Nat → List (Nat × List Nat)
  | fuel + 1, n :: count :: rest => (n, rest.take count) :: listsOf fuel (rest.drop count)
  | _, _ => []

def runs : Array Run := (runsOf (numbers mappingRuns)).toArray

def lists : Array (Nat × List Nat) :=
  let ns := numbers mappingLists
  (listsOf ns.length ns).toArray

def ignored : Array (Nat × Nat) := (pairs (numbers ignoredRanges)).toArray

def valid : Array (Nat × Nat) := (pairs (numbers validRanges)).toArray

def marks : Array (Nat × Nat) := (pairs (numbers markRanges)).toArray

def directions : Array (Nat × Nat × Nat) := (triples (numbers directionRanges)).toArray

/-- Whether a character may stand in a domain name as it is. -/
def isValid (n : Nat) : Bool :=
  if n < 0x80 then !(0x41 ≤ n && n ≤ 0x5a) else inRanges valid n

/-- What takes the place of a character. -/
def map? (n : Nat) : Option (List Nat) :=
  if 0x41 ≤ n && n ≤ 0x5a then some [n + 0x20]
  else if isValid n then some [n]
  else if inRanges ignored n then some []
  else
    match runs.findSome? fun r ↦ r.find? n with
    | some t => some [t]
    | none => (lists.find? fun e ↦ e.1 = n).map Prod.snd

/-! ## Directions -/

/-- The direction of a character. -/
inductive Direction where
  | left | right | arabic | arabicNumber | number | separator | commonSeparator | terminator
  | neutral | boundary | mark | other
deriving DecidableEq, Repr

/-- The direction that a number stands for in the table. -/
def Direction.ofCode : Nat → Direction
  | 0 => .left
  | 1 => .right
  | 2 => .arabic
  | 3 => .arabicNumber
  | 4 => .number
  | 5 => .separator
  | 6 => .commonSeparator
  | 7 => .terminator
  | 8 => .neutral
  | 9 => .boundary
  | 10 => .mark
  | _ => .other

/-- The direction of a character. -/
def direction (n : Nat) : Direction :=
  match directions.find? fun r ↦ r.2.1 ≤ n && n ≤ r.2.2 with
  | some r => .ofCode r.1
  | none => .left

/-- Whether a character makes its name one that runs from right to left. -/
def Direction.isBackward (d : Direction) : Bool :=
  d = .right || d = .arabic || d = .arabicNumber

/-- The directions that are allowed in a label of either direction. -/
def Direction.isCommon (d : Direction) : Bool :=
  d = .number || d = .separator || d = .commonSeparator || d = .terminator || d = .neutral
    || d = .boundary || d = .mark

/-- Whether a label has a clear direction. -/
def hasDirection (label : List Nat) : Bool :=
  let ds := label.map direction
  let last := ds.reverse.find? (· ≠ .mark)
  match ds.head? with
  | none => true
  | some first =>
    if first = .right || first = .arabic then
      ds.all (fun d ↦ d.isBackward || d.isCommon)
        && last.any (fun d ↦ d.isBackward || d = .number)
        && !(ds.contains .number && ds.contains .arabicNumber)
    else
      first = .left && ds.all (fun d ↦ d = .left || d.isCommon)
        && last.any fun d ↦ d = .left || d = .number

/-! ## Labels -/

/-- How a label in Punycode starts. -/
def aceMark : List Nat := [0x78, 0x6e, 0x2d, 0x2d]

/-- The combining class of marks that suppress a vowel. -/
def viramaClass : Nat := 9

/-- How a letter of the Arabic block is joined to its neighbours. -/
inductive Joining where
  /-- On both sides. -/
  | dual
  /-- Only to the letter before it. -/
  | back
  /-- A mark, which joins what is around it. -/
  | transparent
  | none
deriving DecidableEq, Repr

/-- Arabic letters that are joined to the one before them only. -/
def backJoining : List (Nat × Nat) :=
  [(0x622, 0x625), (0x627, 0x627), (0x629, 0x629), (0x62f, 0x632), (0x648, 0x648), (0x671, 0x673),
    (0x675, 0x677), (0x688, 0x699), (0x6c0, 0x6c0), (0x6c3, 0x6cb), (0x6cd, 0x6cd), (0x6cf, 0x6cf),
    (0x6d2, 0x6d3), (0x6d5, 0x6d5), (0x6ee, 0x6ef)]

/-- Arabic letters that are joined on both sides. -/
def dualJoining : List (Nat × Nat) :=
  [(0x620, 0x620), (0x626, 0x626), (0x628, 0x628), (0x62a, 0x62e), (0x633, 0x63f), (0x641, 0x647),
    (0x649, 0x64a), (0x66e, 0x66f), (0x678, 0x687), (0x69a, 0x6bf), (0x6c1, 0x6c2), (0x6cc, 0x6cc),
    (0x6ce, 0x6ce), (0x6d0, 0x6d1), (0x6fa, 0x6fc), (0x6ff, 0x6ff)]

/-- How a character is joined to its neighbours. -/
def joining (n : Nat) : Joining :=
  if backJoining.any fun r ↦ r.1 ≤ n && n ≤ r.2 then .back
  else if dualJoining.any fun r ↦ r.1 ≤ n && n ≤ r.2 then .dual
  else if combiningClass n ≠ 0 then .transparent
  else .none

/-- Whether characters, nearest first, begin with marks and then a letter of some kinds. -/
def joinsTo (kinds : List Joining) (ns : List Nat) : Bool :=
  match (ns.map joining).dropWhile (· = .transparent) with
  | k :: _ => kinds.contains k
  | [] => false

/-- Whether joiners stand only where a vowel is suppressed, or one that keeps letters apart only
where they would be joined. `before` holds the characters before, nearest first. -/
def joinersFit (before : List Nat) : List Nat → Bool
  | [] => true
  | n :: rest =>
    (!(n = 0x200c || n = 0x200d)
        || before.head?.any (fun b ↦ combiningClass b = viramaClass)
        || (n = 0x200c && joinsTo [.dual] before && joinsTo [.dual, .back] rest))
      && joinersFit (n :: before) rest

/-- Whether a label may be written in Punycode. -/
def isWritable (label : List Nat) : Bool :=
  label.all isValid && !(label.head?.any (inRanges marks)) && joinersFit [] label

/-- A label in ASCII and in the characters that it denotes. -/
def label? (label : List Nat) : Option (List Nat × List Nat) :=
  if label.take 4 = aceMark then do
    if label.any (0x80 ≤ ·) then none
    let denoted ← Punycode.decode? (label.drop 4)
    if denoted.any (0x80 ≤ ·) && isWritable denoted && normalForm denoted = denoted then
      some (label, denoted)
    else none
  else if label.all (· < 0x80) then some (label, label)
  else if isWritable label then some (aceMark ++ Punycode.encode label, label)
  else none

/-- Splits code points at points. -/
def splitLabels (ns : List Nat) : List (List Nat) :=
  (Text.splitOn '.' (ns.map Char.ofNat)).map fun cs ↦ cs.map Char.toNat

/-- The characters that no domain name may hold. -/
def isForbidden (n : Nat) : Bool :=
  n ≤ 0x20 || n = 0x7f || "%#/:<>?@[\\]^|".toList.any fun c ↦ c.toNat = n

/-- The domain name in ASCII of a text. -/
def toAscii? (cs : List Char) : Option (List Char) := do
  let mapped ← cs.mapM fun c ↦ map? c.toNat
  let labels ← (splitLabels (normalForm mapped.flatten)).mapM label?
  if labels.any (fun l ↦ l.2.any fun n ↦ (direction n).isBackward)
      && !labels.all (fun l ↦ hasDirection l.2) then none
  let text := Text.joinWith ['.'] (labels.map fun l ↦ l.1.map Char.ofNat)
  if text.any fun c ↦ isForbidden c.toNat then none
  return text

end StageRelay.Domain
