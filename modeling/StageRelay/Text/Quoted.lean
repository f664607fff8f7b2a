import StageRelay.Text.Hex
import StageRelay.Text.Visible

/-!
# Quoted texts

The form in which messages show a text: between double quotes, with a backslash before quotes and
backslashes, short escapes for the usual controls, and a code point in braces for every character
that does not show on its own.
-/

namespace StageRelay.Text

/-- How a character is written inside double quotes. -/
def quoteChar (c : Char) : List Char :=
  match c with
  | '\x00' => ['\\', '0']
  | '\t' => ['\\', 't']
  | '\r' => ['\\', 'r']
  | '\n' => ['\\', 'n']
  | '"' => ['\\', '"']
  | '\\' => ['\\', '\\']
  | c => if isVisible c then [c] else ['\\', 'u', '\x7b'] ++ hexOf c.toNat ++ ['\x7d']

/-- A text in double quotes. -/
def quote (s : String) : String :=
  String.ofList ('"' :: s.toList.flatMap quoteChar ++ ['"'])

end StageRelay.Text
