import StageRelay.Json.Reader
import StageRelay.Registry.Store

/-!
# Seeding a registry

A seed is a JSON array of resources. Faults of the text and of the shape of what it says count in
the order in which they stand in the text.
-/

namespace StageRelay

/-- Why a seed cannot be loaded. -/
inductive SeedError where
  | notFound
  /-- The text ends too early. -/
  | ended
  | invalid
deriving DecidableEq, Repr

namespace SeedError

/-- The word for an error. -/
def name : SeedError → String
  | .notFound => "NotFound"
  | .ended => "UnexpectedEof"
  | .invalid => "InvalidData"

/-- What a fault means for a seed. -/
def ofFault : Fault → SeedError
  | .unreadable .ended => .ended
  | _ => .invalid

end SeedError

namespace Store

/-- The resources that a text lists. -/
def seedResources (text : String) : Except SeedError (List Resource) := do
  let (draft, rest) := Json.readText text.toList
  let resources ← (Shape.list Resource.shape draft).mapError SeedError.ofFault
  if Json.atEnd rest then return resources else throw .invalid

/-- The store that a text describes. -/
def ofSeed (text : String) : Except SeedError Store :=
  ofResources <$> seedResources text

end Store

end StageRelay
