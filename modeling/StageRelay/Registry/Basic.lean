import StageRelay.Registry.Store
import StageRelay.Registry.Watch

/-!
# The registry

Resources together with the watches on them. Storing a resource and removing one notify every watch;
removing nothing notifies none. Whoever cancels a watch does not wait for the registry, which lets
go of the watch some time later.
-/

namespace StageRelay

/-- Why the registry does not answer. -/
inductive RegistryError where
  | notFound (kind : Kind) (key : ResourceKey)
  | backend (reason : String)
deriving DecidableEq, Repr

/-- The text of an error. -/
def RegistryError.message : RegistryError → String
  | .notFound kind key => kind.name ++ " " ++ key.text ++ " not found"
  | .backend reason => "Registry backend error: " ++ reason

/-- Resources and watches. -/
structure Registry where
  store : Store := {}
  watches : Watches := []
deriving Repr

namespace Registry

/-- Hands a notice to every watch and stores nothing. -/
def emit (r : Registry) (n : Notice) : Registry :=
  { r with watches := r.watches.notify n }

/-- Stores a resource. -/
def put (r : Registry) (resource : Resource) : Registry :=
  { store := r.store.put resource, watches := r.watches.notify resource.notice }

/-- Removes a resource and tells which one it was. -/
def remove (r : Registry) (kind : Kind) (key : ResourceKey) : Option Resource × Registry :=
  match r.store.get? kind key with
  | none => (none, r)
  | some old =>
    (some old,
      { store := r.store.remove kind key
        watches := r.watches.notify { stage := key.stage, kind, name := key.name } })

/-- The resource of a kind and key. -/
def get (r : Registry) (kind : Kind) (key : ResourceKey) : Except RegistryError Resource :=
  match r.store.get? kind key with
  | some resource => .ok resource
  | none => .error (.notFound kind key)

/-- Opens a watch; its number is the number of watches before. -/
def watch (r : Registry) : Nat × Registry :=
  (r.watches.length, { r with watches := r.watches.openOne })

/-- Cancels a watch, which goes on until it is released. -/
def cancel (r : Registry) (i : Nat) : Registry :=
  { r with watches := r.watches.cancel i }

/-- Lets go of a watch if it was cancelled. -/
def release (r : Registry) (i : Nat) : Registry :=
  { r with watches := r.watches.release i }

/-- Closes every watch. -/
def closeWatches (r : Registry) : Registry :=
  { r with watches := r.watches.closeAll }

/-- Receives from a watch. -/
def receive (r : Registry) (i : Nat) : Watch.Next :=
  match r.watches[i]? with
  | some w => w.next
  | none => .closed

/-- Puts back what is left of a watch. -/
def setWatch (r : Registry) (i : Nat) (w : Watch) : Registry :=
  { r with watches := r.watches.set i w }

end Registry

end StageRelay
