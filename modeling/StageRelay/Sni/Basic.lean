import StageRelay.Sni.Address
import StageRelay.Text.Blank

/-!
# Server names

A server name is a network address or a host name, of which the first label may be a star. Names are
compared in a normal form: without blanks around them, without points at the end, and in lower case.
-/

namespace StageRelay.Sni

/-- The bytes that a host name has at most. -/
def maxHost : Nat := 253

/-- The bytes that a label has at most. -/
def maxLabel : Nat := 63

/-- The characters of labels. -/
def isLabelChar (c : Char) : Bool :=
  c.isAlphanum || c == '-' || c == '_'

/-- Whether a text is a label of a host name. -/
def isLabel (cs : List Char) : Bool :=
  !cs.isEmpty && cs.length ≤ maxLabel && cs.head? != some '-' && cs.getLast? != some '-'
    && cs.all isLabelChar

/-- Whether a text is a host name. -/
def isHost (cs : List Char) : Bool :=
  !cs.isEmpty && cs.length ≤ maxHost && (Text.splitOn '.' cs).all isLabel

/-- A name without the star of a wildcard. -/
def dropStar : List Char → List Char
  | '*' :: '.' :: rest => rest
  | cs => cs

/-- Whether a text is a server name. -/
def isValid (cs : List Char) : Bool :=
  (Address.parse? cs).isSome || isHost (dropStar cs)

/-- The text without what the normal form leaves out. -/
def clean (cs : List Char) : List Char :=
  Text.lower (Text.dropEnd (· == '.') (Text.trim cs))

/-- The normal form of a server name. -/
def normalize? (name : String) : Option String :=
  let cs := clean name.toList
  if isValid cs then some (String.ofList cs) else none

end StageRelay.Sni
