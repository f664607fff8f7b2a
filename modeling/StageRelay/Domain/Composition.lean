import StageRelay.Domain.CompositionData
import StageRelay.Domain.Table

/-!
# Canonical composition

Characters that stand for a sequence of others are taken apart, marks are put in the order of their
combining classes, and what can be composed is composed again. Two texts that look the same have the
same composed form.
-/

namespace StageRelay.Domain

/-- Composed characters and the two characters that they stand for. -/
def composed : Array (Nat × Nat × Nat) := (triples (numbers composedPairs)).toArray

/-- Characters and those that take their places. -/
def renamed : Array (Nat × Nat) := (pairs (numbers renamedCharacters)).toArray

/-- Characters that are never made by composing. -/
def uncomposed : Array Nat := (numbers uncomposedCharacters).toArray

/-- Ranges of marks and their combining classes. -/
def classes : Array (Nat × Nat × Nat) := (triples (numbers combiningClasses)).toArray

/-- The combining class of a character; 0 if it starts a new one. -/
def combiningClass (n : Nat) : Nat :=
  match classes.find? fun r ↦ r.1 ≤ n && n ≤ r.2.1 with
  | some r => r.2.2
  | none => 0

/-! ## Hangul -/

/-- The parts of the syllable block: where it and the letters that it is made of begin, and how many
of the letters there are. -/
structure SyllableBlock where
  syllables : Nat := 0xac00
  leads : Nat := 0x1100
  vowels : Nat := 0x1161
  trails : Nat := 0x11a7
  leadCount : Nat := 19
  vowelCount : Nat := 21
  trailCount : Nat := 28

/-- The syllable block. -/
def hangul : SyllableBlock := {}

/-- The letters of a syllable. -/
def syllableLetters? (n : Nat) : Option (List Nat) :=
  let i := n - hangul.syllables
  if n < hangul.syllables || hangul.leadCount * hangul.vowelCount * hangul.trailCount ≤ i then none
  else
    let lead := hangul.leads + i / (hangul.vowelCount * hangul.trailCount)
    let vowel := hangul.vowels + i / hangul.trailCount % hangul.vowelCount
    let trail := i % hangul.trailCount
    some ([lead, vowel] ++ if trail = 0 then [] else [hangul.trails + trail])

/-- The syllable of two parts: a lead and a vowel, or a syllable without trail and a trail. -/
def syllable? (a b : Nat) : Option Nat :=
  let lead := a - hangul.leads
  let vowel := b - hangul.vowels
  let trail := b - hangul.trails
  let i := a - hangul.syllables
  if hangul.leads ≤ a && lead < hangul.leadCount
      && hangul.vowels ≤ b && vowel < hangul.vowelCount then
    some (hangul.syllables + (lead * hangul.vowelCount + vowel) * hangul.trailCount)
  else if hangul.syllables ≤ a && i < hangul.leadCount * hangul.vowelCount * hangul.trailCount
      && i % hangul.trailCount = 0 && hangul.trails < b && trail < hangul.trailCount then
    some (a + trail)
  else none

/-! ## Taking apart and putting together -/

/-- The characters that a character stands for; `fuel` bounds how often it is taken apart. -/
def decompose : Nat → Nat → List Nat
  | 0, n => [n]
  | fuel + 1, n =>
    match syllableLetters? n with
    | some letters => letters
    | none =>
      match composed.find? fun e ↦ e.1 = n with
      | some (_, a, b) => decompose fuel a ++ decompose fuel b
      | none =>
        match renamed.find? fun e ↦ e.1 = n with
        | some (_, a) => decompose fuel a
        | none => [n]

/-- Puts a mark behind the marks before it that have no greater class; the text is reversed. -/
def insertMark (n : Nat) : List Nat → List Nat
  | [] => [n]
  | m :: rest =>
    if combiningClass n ≠ 0 ∧ combiningClass n < combiningClass m then m :: insertMark n rest
    else n :: m :: rest

/-- Marks in the order of their classes. -/
def orderMarks (ns : List Nat) : List Nat :=
  (ns.foldl (fun acc n ↦ insertMark n acc) []).reverse

/-- The character composed of two. -/
def compose? (a b : Nat) : Option Nat :=
  match syllable? a b with
  | some n => some n
  | none =>
    match composed.find? fun e ↦ e.2.1 = a && e.2.2 = b && !uncomposed.contains e.1 with
    | some e => some e.1
    | none => none

/-- Composes a text: `starter` is the last character of class 0, `kept` what stands after it so far,
last one first, and `done` what was before it, last one first. -/
def composeFrom (starter : Option Nat) (kept done : List Nat) : List Nat → List Nat
  | [] => (kept ++ starter.toList ++ done).reverse
  | n :: rest =>
    let c := combiningClass n
    let blocked := match kept with
      | [] => false
      | m :: _ => c ≤ combiningClass m
    match (if blocked then none else starter.bind fun s ↦ compose? s n) with
    | some s => composeFrom (some s) kept done rest
    | none =>
      if c = 0 then composeFrom (some n) [] (kept ++ starter.toList ++ done) rest
      else composeFrom starter (n :: kept) done rest

/-- The composed form of a text. -/
def normalForm (ns : List Nat) : List Nat :=
  composeFrom none [] [] (orderMarks (ns.flatMap (decompose 8)))

end StageRelay.Domain
