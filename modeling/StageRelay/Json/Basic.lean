import StageRelay.Dict

/-!
# JSON values

A number is an integer or a binary64 number, the latter kept as its 64 bits so that it can be
compared and passes through unchanged. The fields of an object are in increasing order of their
names.
-/

namespace StageRelay

/-- A JSON number. -/
inductive Number where
  | int (value : Int)
  | float (bits : UInt64)
deriving DecidableEq, Repr

/-- A JSON value. -/
inductive Json where
  | null
  | bool (b : Bool)
  | number (n : Number)
  | string (s : String)
  | array (items : List Json)
  | object (fields : List (String × Json))
deriving Repr

namespace Json

/-- The object with the given fields, of which the last one of a name counts. -/
def ofFields (fields : List (String × Json)) : Json :=
  .object (Dict.ofEntries fields)

/-- An integer as a JSON value. -/
def int (i : Int) : Json :=
  .number (.int i)

/-- The value of a field; none for other values than objects. -/
def field? (name : String) : Json → Option Json
  | .object fields => Dict.find? name fields
  | _ => none

end Json

end StageRelay
