import StageRelay.Index.Basic

/-!
# Indices by stage

Either all stages share one index, or each stage key has its own, which is made when it is first
asked for.
-/

namespace StageRelay

/-- The certificate indices of all stages. -/
inductive IndexDirectory where
  | shared (index : CertificateIndex)
  | perStage (indices : Dict CertificateIndex)
deriving Repr

namespace IndexDirectory

/-- The directory without certificates. -/
def empty (perStage : Bool) : IndexDirectory :=
  if perStage then .perStage [] else .shared {}

/-- The index of a stage. -/
def get : IndexDirectory → Stage → CertificateIndex
  | shared x, _ => x
  | perStage xs, s => (xs.find? s.key).getD {}

/-- Replaces the index of a stage. -/
def set : IndexDirectory → Stage → CertificateIndex → IndexDirectory
  | shared _, _, x => shared x
  | perStage xs, s, x => perStage (xs.insert s.key x)

/-- The directory after the index of a stage was asked for. -/
def touch (d : IndexDirectory) (s : Stage) : IndexDirectory :=
  d.set s (d.get s)

/-- Forgets the indices of stages that do not exist. -/
def prune (existing : List Stage) : IndexDirectory → IndexDirectory
  | shared x => shared x
  | perStage xs =>
    let keys := existing.map Stage.key
    perStage (xs.filter fun e ↦ keys.contains e.1)

/-- The number of indices, if stages have their own. -/
def count? : IndexDirectory → Option Nat
  | shared _ => none
  | perStage xs => some xs.length

end IndexDirectory

end StageRelay
