import StageRelay.Json.Basic

/-!
# JSON as it is written

A draft is what a JSON text says as far as it can be read: the fields of an object in the order they
are written, repeated ones included, and at each place where the text goes wrong what is wrong
there. Which fault of a text counts depends on what is asked of it, because a part that nobody asks
for is only skipped; `value` and `skip` are the two ways through a draft.
-/

namespace StageRelay

/-- Why reading stops: the text is at its end, or no text could go on like this. -/
inductive Break where
  | ended
  | malformed
deriving DecidableEq, Repr

/-- A JSON text as it is written. Containers know why they are not closed, if they are not. A field
name without a value holds an unpaired surrogate. -/
inductive Draft where
  | null
  | bool (b : Bool)
  | number (n : Number)
  | string (s : String)
  | array (items : List Draft) (stop : Option Break)
  | object (fields : List (Option String × Draft)) (stop : Option Break)
  /-- No value: `reading` is met when one is asked for, `skipping` if the place is only passed. -/
  | faulty (reading : Break) (skipping : Option Break)
deriving Repr

namespace Draft

mutual

/-- The first fault met when nothing is asked of the draft. -/
def skip : Draft → Option Break
  | .array items stop => (skipItems items).or stop
  | .object fields stop => (skipFields fields).or stop
  | .faulty _ skipping => skipping
  | _ => none

/-- The first fault among items. -/
def skipItems : List Draft → Option Break
  | [] => none
  | d :: rest => d.skip.or (skipItems rest)

/-- The first fault among fields. -/
def skipFields : List (Option String × Draft) → Option Break
  | [] => none
  | (_, d) :: rest => d.skip.or (skipFields rest)

end

/-- A result, unless reading stopped. -/
def finish {α : Type u} (stop : Option Break) (a : α) : Except Break α :=
  match stop with
  | some b => .error b
  | none => .ok a

mutual

/-- The value of the draft, of which the last field of a name counts. -/
def value : Draft → Except Break Json
  | .null => .ok .null
  | .bool b => .ok (.bool b)
  | .number n => .ok (.number n)
  | .string s => .ok (.string s)
  | .array items stop => do
    let values ← valueItems items
    finish stop (.array values)
  | .object fields stop => do
    let values ← valueFields fields
    finish stop (Json.ofFields values)
  | .faulty reading _ => .error reading

/-- The values of items. -/
def valueItems : List Draft → Except Break (List Json)
  | [] => .ok []
  | d :: rest => do
    let v ← d.value
    let vs ← valueItems rest
    return v :: vs

/-- The values of fields. -/
def valueFields : List (Option String × Draft) → Except Break (List (String × Json))
  | [] => .ok []
  | (none, _) :: _ => .error .malformed
  | (some k, d) :: rest => do
    let v ← d.value
    let vs ← valueFields rest
    return (k, v) :: vs

end

mutual

/-- A value as the draft of a text without faults. -/
def ofJson : Json → Draft
  | .null => .null
  | .bool b => .bool b
  | .number n => .number n
  | .string s => .string s
  | .array items => .array (ofItems items) none
  | .object fields => .object (ofFields fields) none

/-- Values as items. -/
def ofItems : List Json → List Draft
  | [] => []
  | v :: rest => ofJson v :: ofItems rest

/-- Named values as fields. -/
def ofFields : List (String × Json) → List (Option String × Draft)
  | [] => []
  | (k, v) :: rest => (some k, ofJson v) :: ofFields rest

end

end Draft

end StageRelay
