/-!
# Cancellation

Tokens form a tree: cancelling one cancels all tokens below it, and a token that is made below a
cancelled one is cancelled from the start. A token is cancelled for good.
-/

namespace StageRelay

/-- A token: whether it was cancelled itself, and the token it was made from. -/
structure Token where
  parent : Option Nat
  cancelled : Bool := false
deriving DecidableEq, Repr

/-- The tokens made so far, newest first; a token is named by its number, counted from the oldest,
and comes after its parent. -/
structure Tokens where
  made : List Token := []
deriving DecidableEq, Repr

namespace Tokens

/-- The number of tokens. -/
def size (ts : Tokens) : Nat :=
  ts.made.length

/-- Whether a token, or one that it stems from, was cancelled. -/
def isCancelledIn : List Token → Nat → Bool
  | [], _ => false
  | t :: older, i =>
    if i = older.length then t.cancelled || (t.parent.map (isCancelledIn older)).getD false
    else isCancelledIn older i

/-- Whether a token is cancelled. -/
def isCancelled (ts : Tokens) (i : Nat) : Bool :=
  isCancelledIn ts.made i

/-- Makes a token; its number is the size before. -/
def make (ts : Tokens) (parent : Option Nat) : Tokens :=
  ⟨⟨parent, false⟩ :: ts.made⟩

/-- Cancels a token. -/
def cancel (ts : Tokens) (i : Nat) : Tokens :=
  ⟨(ts.made.reverse.modify i fun t ↦ { t with cancelled := true }).reverse⟩

end Tokens

/-- The shutdown of a program: a root token, and a token below it for everyone who wants to know. -/
structure Shutdown where
  root : Nat
deriving DecidableEq, Repr

namespace Shutdown

/-- Makes a shutdown with a token of its own. -/
def new (ts : Tokens) : Shutdown × Tokens :=
  (⟨ts.size⟩, ts.make none)

/-- Hands out a token. -/
def subscribe (s : Shutdown) (ts : Tokens) : Nat × Tokens :=
  (ts.size, ts.make (some s.root))

/-- Tells everyone. -/
def trigger (s : Shutdown) (ts : Tokens) : Tokens :=
  ts.cancel s.root

/-- Whether everyone was told. -/
def isTriggered (s : Shutdown) (ts : Tokens) : Bool :=
  ts.isCancelled s.root

end Shutdown

end StageRelay
