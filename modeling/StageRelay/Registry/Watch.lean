import StageRelay.Resource.Basic

/-!
# Watches

A watch buffers the notices of changes for whoever opened it. A full buffer loses what comes next; a
closed watch gets nothing any more, but what it holds can still be received. To cancel a watch does
not close it: it goes on as before until it is released.
-/

namespace StageRelay

/-- A stream of notices. -/
structure Watch where
  buffer : List Notice := []
  isOpen : Bool := true
  /-- Whether nobody wants the notices any more. -/
  isCancelled : Bool := false
deriving DecidableEq, Repr

namespace Watch

/-- The notices that a watch holds at most. -/
def capacity : Nat := 1024

/-- Hands a notice to a watch. -/
def offer (n : Notice) (w : Watch) : Watch :=
  if w.isOpen ∧ w.buffer.length < capacity then { w with buffer := w.buffer ++ [n] } else w

/-- Closes a watch. -/
def close (w : Watch) : Watch :=
  { w with isOpen := false }

/-- Marks a watch as cancelled. -/
def cancel (w : Watch) : Watch :=
  { w with isCancelled := true }

/-- Closes a watch if it was cancelled. -/
def release (w : Watch) : Watch :=
  if w.isCancelled then w.close else w

/-- What a watch yields next. -/
inductive Next where
  | notice (n : Notice) (rest : Watch)
  /-- Nothing yet. -/
  | waiting
  /-- Nothing ever again. -/
  | closed

/-- Receives from a watch. -/
def next (w : Watch) : Next :=
  match w.buffer with
  | n :: rest => .notice n { w with buffer := rest }
  | [] => if w.isOpen then .waiting else .closed

end Watch

/-- All watches that were ever opened, by number. -/
abbrev Watches := List Watch

namespace Watches

/-- Hands a notice to every watch. -/
def notify (ws : Watches) (n : Notice) : Watches :=
  ws.map (Watch.offer n)

/-- Opens one more watch; its number is the length before. -/
def openOne (ws : Watches) : Watches :=
  ws ++ [({} : Watch)]

/-- Cancels one watch. -/
def cancel (ws : Watches) (i : Nat) : Watches :=
  ws.modify i Watch.cancel

/-- Releases one watch. -/
def release (ws : Watches) (i : Nat) : Watches :=
  ws.modify i Watch.release

/-- Closes every watch. -/
def closeAll (ws : Watches) : Watches :=
  ws.map Watch.close

/-- The number of open watches. -/
def openCount (ws : Watches) : Nat :=
  ws.countP Watch.isOpen

end Watches

end StageRelay
