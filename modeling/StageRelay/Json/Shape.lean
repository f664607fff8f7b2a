import StageRelay.Decimal.Shortest
import StageRelay.Json.Draft
import StageRelay.Text.Quoted

/-!
# Shapes

Taking values of a wanted shape out of drafts, and the causes for which that fails. A record is
written either as an object, whose fields are taken in the order in which they are written, or as an
array of its fields in the order of declaration. Of several faults the first one in the text counts;
a field that is missing is noticed last.
-/

namespace StageRelay

/-- What stands where something else is wanted. -/
inductive Found where
  | null
  | bool (b : Bool)
  | number (n : Number)
  | string (s : String)
  | sequence
  | map
deriving DecidableEq, Repr

/-- How messages name what was found. -/
def Found.describe : Found → String
  | .null => "null"
  | .bool b => "boolean `" ++ (if b then "true" else "false") ++ "`"
  | .number (.int i) => "integer `" ++ toString i ++ "`"
  | .number (.float bits) => "floating point `" ++ Decimal.text bits ++ "`"
  | .string s => "string " ++ Text.quote s
  | .sequence => "sequence"
  | .map => "map"

/-- Why a draft has not the wanted shape. -/
inductive Fault where
  /-- Something of another kind. -/
  | kind (found : Found) (expected : String)
  /-- Something of the right kind, but out of range. -/
  | range (found : Found) (expected : String)
  /-- An array that ends before the position of a field that may not be left out. -/
  | short (position : Nat) (record : String) (count : Nat)
  /-- An array of some length that goes on after the fields of a record. -/
  | long (length : Nat)
  | missing (field : String)
  | duplicate (field : String)
  /-- The text itself goes wrong. -/
  | unreadable (b : Break)
deriving DecidableEq, Repr

/-- The text of a fault. -/
def Fault.message : Fault → String
  | .kind found expected => "invalid type: " ++ found.describe ++ ", expected " ++ expected
  | .range found expected => "invalid value: " ++ found.describe ++ ", expected " ++ expected
  | .short position record count =>
    "invalid length " ++ toString position ++ ", expected struct " ++ record ++ " with "
      ++ toString count ++ (if count = 1 then " element" else " elements")
  | .long length => "invalid length " ++ toString length ++ ", expected fewer elements in array"
  | .missing field => "missing field `" ++ field ++ "`"
  | .duplicate field => "duplicate field `" ++ field ++ "`"
  | .unreadable .ended => "unexpected end of text"
  | .unreadable .malformed => "malformed text"

/-- A way to take a value out of a draft. -/
abbrev Shape (α : Type u) := Draft → Except Fault α

namespace Shape

variable {α : Type u}

/-- The fault of a draft that is not of the expected kind. -/
def other (expected : String) : Draft → Fault
  | .null => .kind .null expected
  | .bool b => .kind (.bool b) expected
  | .number n => .kind (.number n) expected
  | .string s => .kind (.string s) expected
  | .array _ _ => .kind .sequence expected
  | .object _ _ => .kind .map expected
  | .faulty reading _ => .unreadable reading

/-- A text. -/
def text : Shape String
  | .string s => .ok s
  | d => .error (other "a string" d)

/-- A truth value. -/
def bool : Shape Bool
  | .bool b => .ok b
  | d => .error (other "a boolean" d)

/-- An integer from `low` to `high`. -/
def integer (expected : String) (low high : Int) : Shape Int
  | .number (.int i) =>
    if low ≤ i ∧ i ≤ high then .ok i else .error (.range (.number (.int i)) expected)
  | d => .error (other expected d)

/-- A signed integer of 64 bits. -/
def int64 : Shape Int64 := fun d ↦
  Int64.ofInt <$> integer "i64" (-0x8000000000000000) 0x7fffffffffffffff d

/-- An unsigned integer of 32 bits. -/
def uint32 : Shape UInt32 := fun d ↦
  (fun i ↦ UInt32.ofNat i.toNat) <$> integer "u32" 0 0xffffffff d

/-- An unsigned integer of 64 bits. -/
def uint64 : Shape UInt64 := fun d ↦
  (fun i ↦ UInt64.ofNat i.toNat) <$> integer "u64" 0 0xffffffffffffffff d

/-- A size, which has 64 bits. -/
def size : Shape Nat := fun d ↦
  Int.toNat <$> integer "usize" 0 0xffffffffffffffff d

/-- Any value. -/
def any : Shape Json := fun d ↦
  d.value.mapError .unreadable

/-- A result, unless the text stopped. -/
def finish (stop : Option Break) (a : α) : Except Fault α :=
  match stop with
  | some b => .error (.unreadable b)
  | none => .ok a

/-- An array of values of one shape. -/
def list (item : Shape α) : Shape (List α)
  | .array items stop => do
    let values ← items.mapM item
    finish stop values
  | d => .error (other "a sequence" d)

/-- An object whose fields all have one shape, of which the last one of a name counts. -/
def dict (item : Shape α) : Shape (Dict α)
  | .object fields stop => do
    let entries ← fields.mapM fun
      | (some k, d) => do return (k, ← item d)
      | (none, _) => throw (.unreadable .malformed)
    finish stop (Dict.ofEntries entries)
  | d => .error (other "a map" d)

end Shape

/-! ## Records -/

/-- A field of a record: its name, other names it may have, its shape, and the value it takes when
it is left out. -/
structure Field (α : Type) where
  name : String
  aliases : List String := []
  shape : Shape α
  default? : Option α := none

/-- What the reading of a record needs to know of a field, whatever its type. -/
structure Slot where
  name : String
  aliases : List String
  check : Draft → Except Fault Unit
  required : Bool

namespace Field

variable {α : Type}

/-- The field without its type. -/
def slot (f : Field α) : Slot where
  name := f.name
  aliases := f.aliases
  check d := (fun _ ↦ ()) <$> f.shape d
  required := f.default?.isNone

end Field

/-- The drafts of the fields that a record gives, by the names of the fields. -/
abbrev Fields := List (String × Draft)

namespace Fields

/-- The draft of a field. -/
def find? (name : String) : Fields → Option Draft
  | [] => none
  | (k, d) :: rest => if k = name then some d else find? name rest

/-- The value of a field. -/
def get {α : Type} (fields : Fields) (f : Field α) : Except Fault α :=
  match fields.find? f.name, f.default? with
  | some d, _ => f.shape d
  | none, some a => .ok a
  | none, none => .error (.missing f.name)

/-- Takes the fields of an object in the order in which they are written. -/
def ofObject (slots : List Slot) : Fields → List (Option String × Draft) → Except Fault Fields
  | taken, [] => .ok taken
  | _, (none, _) :: _ => .error (.unreadable .malformed)
  | taken, (some k, d) :: rest =>
    match slots.find? fun s ↦ s.name = k ∨ k ∈ s.aliases with
    | none =>
      match d.skip with
      | some b => .error (.unreadable b)
      | none => ofObject slots taken rest
    | some s =>
      if (taken.find? s.name).isSome then .error (.duplicate s.name)
      else do
        s.check d
        ofObject slots ((s.name, d) :: taken) rest

/-- Takes the fields of an array in the order of declaration; `all` are the slots of the record. -/
def ofArray (record : String) (all : List Slot) (length : Nat) (stop : Option Break) :
    List Slot → List Draft → Except Fault Fields
  | [], [] => Shape.finish stop []
  | [], _ :: _ => .error (.long length)
  | s :: slots, d :: rest => do
    s.check d
    let taken ← ofArray record all length stop slots rest
    return (s.name, d) :: taken
  | s :: slots, [] =>
    match stop with
    | some b => .error (.unreadable b)
    | none =>
      if s.required then .error (.short (all.length - (s :: slots).length) record all.length)
      else ofArray record all length stop slots []

/-- The first slot that a record has to fill and does not. -/
def firstMissing (slots : List Slot) (fields : Fields) : Option Slot :=
  slots.find? fun s ↦ s.required && (fields.find? s.name).isNone

end Fields

/-- The fields of a record with the given name and slots. -/
def Draft.record (name : String) (slots : List Slot) : Draft → Except Fault Fields
  | .object fields stop => do
    let taken ← Fields.ofObject slots [] fields
    let taken ← Shape.finish stop taken
    match Fields.firstMissing slots taken with
    | some s => throw (.missing s.name)
    | none => return taken
  | .array items stop => Fields.ofArray name slots items.length stop slots items
  | d => .error (Shape.other ("struct " ++ name) d)

end StageRelay
