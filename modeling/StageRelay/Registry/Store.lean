import StageRelay.Assoc
import StageRelay.Resource.Basic

/-!
# The objects of a registry

At most one resource is kept for each kind, stage key and name.
-/

namespace StageRelay

/-- What a resource is stored under. -/
structure StoreKey where
  kind : Kind
  stage : String
  name : String
deriving DecidableEq, Repr

/-- The place of a resource of some kind. -/
def StoreKey.of (kind : Kind) (key : ResourceKey) : StoreKey :=
  ⟨kind, key.stage.key, key.name⟩

/-- The resources of a registry. -/
structure Store where
  entries : Assoc StoreKey Resource := []
deriving Repr

namespace Store

/-- Stores a resource. -/
def put (s : Store) (r : Resource) : Store :=
  ⟨s.entries.insert (.of r.kind r.key) r⟩

/-- Stores resources one after the other. -/
def ofResources (rs : List Resource) : Store :=
  rs.foldl put {}

/-- The resource of a kind and key. -/
def get? (s : Store) (kind : Kind) (key : ResourceKey) : Option Resource :=
  s.entries.find? (.of kind key)

/-- Forgets the resource of a kind and key. -/
def remove (s : Store) (kind : Kind) (key : ResourceKey) : Store :=
  ⟨s.entries.erase (.of kind key)⟩

/-- The number of resources. -/
def size (s : Store) : Nat :=
  s.entries.length

/-- The resources of a kind in a stage, by name. -/
def list (s : Store) (kind : Kind) (stage : Stage) : List Resource :=
  ((s.entries.map Prod.snd).filter fun r ↦ r.kind = kind && r.stage.same stage).mergeSort
    fun a b ↦ !(b.name < a.name)

/-- The stages that have a stage object, by key and once each. -/
def stages (s : Store) : List Stage :=
  (Dict.ofEntries (((s.entries.map Prod.snd).filter fun r ↦ r.kind = .stage).map
    fun r ↦ (r.stage.key, r.stage))).map Prod.snd

end Store

end StageRelay
