import StageRelay.Stage

/-!
# The commit channel

A bounded queue of batches with one consumer. An empty batch is never queued.
-/

namespace StageRelay

/-- Batches that wait for the consumer, oldest first. -/
structure CommitChannel where
  capacity : Nat
  batches : List (List Stage) := []
  isOpen : Bool := true
deriving DecidableEq, Repr

/-- What becomes of a batch that is sent. -/
inductive Sent where
  | sent (channel : CommitChannel)
  /-- There is no room; the sender has to wait. -/
  | full
  /-- There is no consumer any more. -/
  | closed
deriving Repr

namespace CommitChannel

/-- The greatest capacity a channel can have. -/
def maxCapacity : Nat := 0xffffffffffffffff / 8

/-- A channel without batches; none if it could hold no batch or too many. -/
def new? (capacity : Nat) : Option CommitChannel :=
  if 0 < capacity ∧ capacity ≤ maxCapacity then some { capacity } else none

/-- Sends a batch. -/
def send (c : CommitChannel) (batch : List Stage) : Sent :=
  if batch.isEmpty then .sent c
  else if !c.isOpen then .closed
  else if c.capacity ≤ c.batches.length then .full
  else .sent { c with batches := c.batches ++ [batch] }

/-- Takes out the oldest batch. -/
def receive? (c : CommitChannel) : Option (List Stage × CommitChannel) :=
  match c.batches with
  | [] => none
  | b :: rest => some (b, { c with batches := rest })

/-- Removes the consumer, and with it the batches that wait. -/
def close (c : CommitChannel) : CommitChannel :=
  { c with batches := [], isOpen := false }

end CommitChannel

end StageRelay
