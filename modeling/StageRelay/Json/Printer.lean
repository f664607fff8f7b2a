import StageRelay.Decimal.Shortest
import StageRelay.Json.Basic
import StageRelay.Text.Hex

/-!
# Writing JSON

Two forms of the same text: compact, without any space, and indented by two spaces a level. Only
quotes, backslashes and the controls below the space are escaped.
-/

namespace StageRelay.Json

/-- How a character is written inside a JSON string. -/
def escapeChar (c : Char) : List Char :=
  if c = '"' then ['\\', '"']
  else if c = '\\' then ['\\', '\\']
  else if c = '\n' then ['\\', 'n']
  else if c = '\r' then ['\\', 'r']
  else if c = '\t' then ['\\', 't']
  else if c = '\x08' then ['\\', 'b']
  else if c = '\x0c' then ['\\', 'f']
  else if c.toNat < 0x20 then
    ['\\', 'u', '0', '0', Nat.digitChar (c.toNat / 16), Nat.digitChar (c.toNat % 16)]
  else [c]

/-- A JSON string. -/
def encodeString (s : String) : String :=
  "\"" ++ String.ofList (s.toList.flatMap escapeChar) ++ "\""

/-- A JSON number. -/
def encodeNumber : Number → String
  | .int i => toString i
  | .float bits => Decimal.text bits

mutual

/-- The value without any space. -/
def compact : Json → String
  | .null => "null"
  | .bool b => if b then "true" else "false"
  | .number n => encodeNumber n
  | .string s => encodeString s
  | .array items => "[" ++ compactItems items ++ "]"
  | .object fields => "\x7b" ++ compactFields fields ++ "\x7d"

/-- Items separated by commas. -/
def compactItems : List Json → String
  | [] => ""
  | [v] => compact v
  | v :: rest => compact v ++ "," ++ compactItems rest

/-- Fields separated by commas. -/
def compactFields : List (String × Json) → String
  | [] => ""
  | [(k, v)] => encodeString k ++ ":" ++ compact v
  | (k, v) :: rest => encodeString k ++ ":" ++ compact v ++ "," ++ compactFields rest

end

/-- A new line at a level of indentation. -/
def newLine (level : Nat) : String :=
  "\n" ++ "".pushn ' ' (2 * level)

mutual

/-- The value over several lines; what stands inside it is indented once more than `level`. -/
def pretty (level : Nat) : Json → String
  | .null => "null"
  | .bool b => if b then "true" else "false"
  | .number n => encodeNumber n
  | .string s => encodeString s
  | .array [] => "[]"
  | .array (v :: rest) =>
    "[" ++ newLine (level + 1) ++ pretty (level + 1) v ++ prettyItems (level + 1) rest
      ++ newLine level ++ "]"
  | .object [] => "\x7b\x7d"
  | .object ((k, v) :: rest) =>
    "\x7b" ++ newLine (level + 1) ++ encodeString k ++ ": " ++ pretty (level + 1) v
      ++ prettyFields (level + 1) rest ++ newLine level ++ "\x7d"

/-- The items after the first one. -/
def prettyItems (level : Nat) : List Json → String
  | [] => ""
  | v :: rest => "," ++ newLine level ++ pretty level v ++ prettyItems level rest

/-- The fields after the first one. -/
def prettyFields (level : Nat) : List (String × Json) → String
  | [] => ""
  | (k, v) :: rest =>
    "," ++ newLine level ++ encodeString k ++ ": " ++ pretty level v ++ prettyFields level rest

end

end StageRelay.Json
