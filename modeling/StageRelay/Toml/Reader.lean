import StageRelay.Toml.Scalar

/-!
# Reading TOML

Values, lines and documents. Arrays and tables within values nest to a limited depth, and names have
a limited number of parts.
-/

namespace StageRelay.Toml

/-! ## Names -/

/-- Whether a character may stand in a name without quotes. -/
def isBare (c : Char) : Bool :=
  c.isAlphanum || c == '_' || c == '-'

/-- Reads a part of a name. -/
def readPart : Reader String
  | '"' :: rest => readBasic (rest.length + 1) [] rest
  | '\'' :: rest => readLiteral rest
  | cs =>
    let part := cs.takeWhile isBare
    if part.isEmpty then none else some (String.ofList part, cs.dropWhile isBare)

/-- Reads the parts of a name between points, and the space after it. -/
def readParts : Nat → Reader (List String)
  | 0, _ => none
  | fuel + 1, cs => do
    let (part, cs) ← readPart (skipSpace cs)
    match skipSpace cs with
    | '.' :: rest =>
      let (parts, rest) ← readParts fuel rest
      return (part :: parts, rest)
    | rest => return ([part], rest)

/-- The number that the parts of a name, and the levels of nesting, stay below. -/
def limit : Nat := 80

/-- Reads a name. -/
def readName : Reader (List String) := fun cs ↦ do
  let (parts, rest) ← readParts (cs.length + 1) cs
  if parts.length < limit then some (parts, rest) else none

/-! ## Values -/

mutual

/-- Reads a value. `fuel` bounds the number of steps and `room` the levels of nesting. -/
def readValue : Nat → Nat → Reader Toml
  | 0, _, _ => none
  | fuel + 1, room, cs =>
    match cs with
    | '"' :: _ => (readString cs).map fun (s, rest) ↦ (.string s, rest)
    | '\'' :: _ => (readString cs).map fun (s, rest) ↦ (.string s, rest)
    | 't' :: _ => readWord "true".toList (.bool true) cs
    | 'f' :: _ => readWord "false".toList (.bool false) cs
    | '[' :: rest =>
      if room = 0 then none
      else (readItems fuel (room - 1) rest).map fun (items, rest) ↦ (.array items, rest)
    | '\x7b' :: rest =>
      if room = 0 then none
      else do
        let (pairs, rest) ← readPairs fuel (room - 1) rest
        return (← ofPairs pairs, rest)
    | _ => readNumeric cs

/-- Reads the items of an array after its bracket. -/
def readItems : Nat → Nat → Reader (List Toml)
  | 0, _, _ => none
  | fuel + 1, room, cs =>
    match skipLines cs.length cs with
    | ']' :: rest => some ([], rest)
    | cs => do
      let (v, cs) ← readValue fuel room cs
      match skipLines cs.length cs with
      | ']' :: rest => return ([v], rest)
      | ',' :: rest =>
        let (items, rest) ← readItems fuel room rest
        return (v :: items, rest)
      | _ => none

/-- Reads the pairs of a table after its brace. -/
def readPairs : Nat → Nat → Reader (List (List String × Toml))
  | 0, _, _ => none
  | fuel + 1, room, cs =>
    match skipSpace cs with
    | '\x7d' :: rest => some ([], rest)
    | cs => readMorePairs fuel room cs

/-- Reads at least one pair of a table. -/
def readMorePairs : Nat → Nat → Reader (List (List String × Toml))
  | 0, _, _ => none
  | fuel + 1, room, cs => do
    let (path, cs) ← readName cs
    let (v, cs) ← readValue fuel room (skipSpace (← after? '=' cs))
    match skipSpace cs with
    | '\x7d' :: rest => return ([(path, v)], rest)
    | ',' :: rest =>
      let (pairs, rest) ← readMorePairs fuel room rest
      return ((path, v) :: pairs, rest)
    | _ => none

end

/-! ## Documents -/

/-- Reads a statement up to the end of its line. -/
def readStatement : Reader Statement
  | '[' :: '[' :: cs => do
    let (path, cs) ← readName cs
    let rest ← endLine? (← after? ']' (← after? ']' cs))
    return (.another path, rest)
  | '[' :: cs => do
    let (path, cs) ← readName cs
    let rest ← endLine? (← after? ']' cs)
    return (.header path, rest)
  | cs => do
    let (path, cs) ← readName cs
    let (v, cs) ← readValue (4 * cs.length + 4) (limit - 1) (skipSpace (← after? '=' cs))
    return (.pair path v, ← endLine? cs)

/-- The statements of a text. `fuel` bounds the number of lines. -/
def statements : Nat → List Char → Option (List Statement)
  | 0, cs => if cs.isEmpty then some [] else none
  | fuel + 1, cs =>
    match skipLines cs.length cs with
    | [] => some []
    | '#' :: rest => if (rest.dropWhile isText).isEmpty then some [] else none
    | cs => do
      let (s, rest) ← readStatement cs
      return s :: (← statements fuel rest)

/-- The mark that a text may begin with. -/
def byteOrderMark : Char := '\ufeff'

/-- The document of a text. -/
def parse? (text : String) : Option Toml := do
  let cs := match text.toList with
    | c :: rest => if c = byteOrderMark then rest else c :: rest
    | [] => []
  ofStatements (← statements (cs.length + 1) cs)

end StageRelay.Toml
