import StageRelay.Stage

/-!
# Debouncing of stages

A stage that changed waits until it has been left alone for the debounce window, or until it has
waited for longer than the force window, whichever comes first. The latest payload of a stage is the
one that counts; the time at which it began to wait is that of its first change. Times are
milliseconds.
-/

namespace StageRelay

/-- A stage that waits to be committed. -/
structure Waiting where
  stage : Stage
  /-- When the stage began to wait. -/
  since : Nat
  /-- The end of the debounce window of the latest change. -/
  quietAt : Nat
deriving DecidableEq, Repr

/-- The stages that wait, by their keys. -/
structure Debouncer where
  debounce : Nat
  force : Nat
  waiting : Dict Waiting := []
deriving DecidableEq, Repr

namespace Debouncer

/-- Whether a stage has waited long enough. -/
def isDue (d : Debouncer) (now : Nat) (w : Waiting) : Bool :=
  w.quietAt < now || d.force < now - w.since

/-- Notes a change of a stage. -/
def update (d : Debouncer) (now : Nat) (stage : Stage) : Debouncer :=
  let since := ((d.waiting.find? stage.key).map Waiting.since).getD now
  { d with waiting := d.waiting.insert stage.key ⟨stage, since, now + d.debounce⟩ }

/-- The stages that are due. -/
def due (d : Debouncer) (now : Nat) : List Stage :=
  (d.waiting.filter fun e ↦ d.isDue now e.2).map fun e ↦ e.2.stage

/-- Takes out the stages that are due. -/
def drain (d : Debouncer) (now : Nat) : List Stage × Debouncer :=
  (d.due now, { d with waiting := d.waiting.filter fun e ↦ !d.isDue now e.2 })

/-- The number of stages that wait. -/
def size (d : Debouncer) : Nat :=
  d.waiting.length

end Debouncer

end StageRelay
