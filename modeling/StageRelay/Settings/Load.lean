import StageRelay.Settings.Check
import StageRelay.Toml.Reader

/-!
# Loading settings

Settings are written as a TOML document. A section may also be given as an array of its settings in
the order of declaration; what comes after them is passed over.
-/

namespace StageRelay

mutual

/-- A value as a draft. No setting is a number with a fraction, and a point in time is a table in
which nothing is set. -/
def Toml.toDraft : Toml → Draft
  | .string s => .string s
  | .integer i => .number (.int i)
  | .float => .faulty .malformed none
  | .bool b => .bool b
  | .moment => .object [] none
  | .array items => .array (Toml.itemsToDraft items) none
  | .table entries => .object (Toml.entriesToDraft entries) none

/-- Values as items. -/
def Toml.itemsToDraft : List Toml → List Draft
  | [] => []
  | v :: rest => v.toDraft :: Toml.itemsToDraft rest

/-- Named values as fields. -/
def Toml.entriesToDraft : List (String × Toml) → List (Option String × Draft)
  | [] => []
  | (k, v) :: rest => (some k, v.toDraft) :: Toml.entriesToDraft rest

end

/-- Why settings cannot be loaded. -/
inductive SettingsError where
  /-- There is no file, or it holds no text. -/
  | io
  | malformed
  | refused (complaints : List Complaint)
deriving DecidableEq, Repr

namespace Settings

/-- The sections and the number of settings that each has. -/
def sectionSizes : List (String × Nat) :=
  [("agent", 8), ("commiter", 2), ("tls", 1), ("registry", 1), ("synchronizer", 1),
    ("observability", 2)]

/-- An array without the items for which a section has no settings. -/
def trim (size : Nat) : Draft → Draft
  | .array items stop => .array (items.take size) stop
  | d => d

/-- The fields of a document as drafts of sections. -/
def trimSections : Draft → Draft
  | .object fields stop =>
    .object (fields.map fun (k?, d) ↦
      match k?.bind fun k ↦ sectionSizes.lookup k with
      | some size => (k?, trim size d)
      | none => (k?, d)) stop
  | d => d

/-- The settings that a text describes. -/
def parse (text : String) : Except SettingsError Settings :=
  match Toml.parse? text with
  | none => .error .malformed
  | some t =>
    match shape (trimSections t.toDraft) with
    | .error _ => .error .malformed
    | .ok s =>
      match s.complaints with
      | [] => .ok s
      | complaints => .error (.refused complaints)

/-- The settings in the bytes of a file, if there is one. -/
def load (file? : Option (List UInt8)) : Except SettingsError Settings :=
  match file?.bind fun bs ↦ String.fromUTF8? ⟨bs.toArray⟩ with
  | some text => parse text
  | none => .error .io

end Settings

end StageRelay
