/-!
# Byte strings

What follows a given beginning, where two byte strings part, and the encoding of texts.
-/

namespace StageRelay

/-- A byte string. -/
abbrev Bytes := List UInt8

namespace Bytes

/-- The rest of a byte string after a given beginning. -/
def strip : Bytes → Bytes → Option Bytes
  | [], key => some key
  | _ :: _, [] => none
  | l :: label, b :: key => if l = b then strip label key else none

/-- The common beginning of two byte strings and what follows in each. -/
def split : Bytes → Bytes → Bytes × Bytes × Bytes
  | l :: label, b :: key =>
    if l = b then
      let (common, label', key') := split label key
      (l :: common, label', key')
    else ([], l :: label, b :: key)
  | label, key => ([], label, key)

/-- The encoding of a text. -/
def ofText (cs : List Char) : Bytes :=
  cs.flatMap String.utf8EncodeChar

/-- The text that a byte string encodes. -/
def text? (bs : Bytes) : Option (List Char) :=
  (String.fromUTF8? ⟨bs.toArray⟩).map String.toList

end Bytes

end StageRelay
