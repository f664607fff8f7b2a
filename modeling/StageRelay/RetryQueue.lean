import StageRelay.Resource.Basic

/-!
# Delayed redelivery

Notices whose handling failed come back after a fixed delay, in the order of their times. The queue
holds a limited number of them.
-/

namespace StageRelay

/-- A notice that comes back at a time. -/
structure Delayed where
  due : Nat
  notice : Notice
deriving DecidableEq, Repr

/-- Notices that wait to come back, in the order in which they were queued. -/
structure RetryQueue where
  capacity : Nat
  delay : Nat
  entries : List Delayed := []
deriving DecidableEq, Repr

/-- What becomes of a notice that is to be queued. -/
inductive Queued where
  | accepted (queue : RetryQueue)
  | full
  /-- The delay is beyond what can be kept track of. -/
  | beyond
deriving Repr

namespace RetryQueue

/-- The first delay, in milliseconds, that is too long to be kept track of. -/
def delayLimit : Nat := 0x1000000000

/-- Queues a notice. -/
def push (q : RetryQueue) (now : Nat) (n : Notice) : Queued :=
  if q.capacity ≤ q.entries.length then .full
  else if delayLimit ≤ q.delay then .beyond
  else .accepted { q with entries := q.entries ++ [⟨now + q.delay, n⟩] }

/-- The earlier of two entries; of two at the same time the first one. -/
def earlier (best : Option Delayed) (e : Delayed) : Option Delayed :=
  match best with
  | none => some e
  | some b => if e.due < b.due then some e else some b

/-- The entry that comes back first. -/
def first? (q : RetryQueue) : Option Delayed :=
  q.entries.foldl earlier none

/-- Takes out the entry that comes back first, if its time has come. -/
def pop? (q : RetryQueue) (now : Nat) : Option (Notice × RetryQueue) :=
  match q.first? with
  | some e => if e.due ≤ now then some (e.notice, { q with entries := q.entries.erase e }) else none
  | none => none

/-- The number of entries. -/
def size (q : RetryQueue) : Nat :=
  q.entries.length

end RetryQueue

end StageRelay
