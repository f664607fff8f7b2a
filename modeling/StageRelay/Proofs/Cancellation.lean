import Mathlib.Order.Nat
import StageRelay.Cancellation

/-!
# Tokens are cancelled for good

Making a token and cancelling one leave every token cancelled that was, and a token that was
cancelled by itself is cancelled.
-/

namespace StageRelay

namespace Tokens

variable {ts ts' ts'' : Tokens} {i j : Nat}

/-- Cancels one of some tokens, newest first. -/
def cancelIn (i : Nat) : List Token → List Token
  | [] => []
  | t :: older =>
    if i = older.length then { t with cancelled := true } :: older else t :: cancelIn i older

theorem length_cancelIn (i : Nat) (made : List Token) : (cancelIn i made).length = made.length := by
  induction made with
  | nil => rfl
  | cons t older ih =>
    unfold cancelIn
    split
    · rfl
    · exact congrArg (· + 1) ih

theorem made_cancel (ts : Tokens) (i : Nat) : (ts.cancel i).made = cancelIn i ts.made := by
  obtain ⟨made⟩ := ts
  unfold cancel
  induction made with
  | nil => simp [cancelIn]
  | cons t older ih =>
    dsimp only at ih ⊢
    have hconcat (f : Token → Token) : (older.reverse ++ [t]).modify i f =
        if i = older.length then older.reverse ++ [f t] else older.reverse.modify i f ++ [t] := by
      refine List.ext_getElem? fun k ↦ ?_
      grind
    rw [List.reverse_cons, hconcat, cancelIn, ← ih]
    split <;> simp

@[simp] theorem size_cancel (ts : Tokens) (i : Nat) : (ts.cancel i).size = ts.size := by
  rw [size, made_cancel, length_cancelIn, size]

theorem isCancelledIn_cancelIn {made : List Token} (h : isCancelledIn made j) :
    isCancelledIn (cancelIn i made) j := by
  induction made generalizing j with
  | nil => exact h
  | cons t older ih =>
    unfold cancelIn
    split
    · unfold isCancelledIn at h ⊢
      split at h <;> simp_all
    · unfold isCancelledIn at h ⊢
      rw [length_cancelIn]
      split at h
      · next hj =>
        rw [if_pos hj]
        cases hp : t.parent with
        | none => simpa [hp] using h
        | some p =>
          rw [hp] at h
          rcases Bool.or_eq_true_iff.1 h with h | h
          · simp [h]
          · simp [ih h]
      · next hj =>
        rw [if_neg hj]
        exact ih h

theorem isCancelledIn_self {made : List Token} (h : i < made.length) :
    isCancelledIn (cancelIn i made) i := by
  induction made with
  | nil => cases h
  | cons t older ih =>
    unfold cancelIn
    split
    · next hi => simp [isCancelledIn, hi]
    · next hi =>
      rw [isCancelledIn, length_cancelIn, if_neg hi]
      exact ih (by simp at h; omega)

theorem lt_of_isCancelledIn {made : List Token} (h : isCancelledIn made i) : i < made.length := by
  induction made with
  | nil => cases h
  | cons t older ih =>
    unfold isCancelledIn at h
    split at h
    · next hi => simp [hi]
    · exact (ih h).trans (Nat.lt_succ_self _)

/-- There may be more tokens, and more of them cancelled. -/
structure Grows (ts ts' : Tokens) : Prop where
  size : ts.size ≤ ts'.size
  cancelled : ∀ i, ts.isCancelled i → ts'.isCancelled i

namespace Grows

theorem refl (ts : Tokens) : Grows ts ts := ⟨le_rfl, fun _ ↦ id⟩

theorem trans (h : Grows ts ts') (h' : Grows ts' ts'') : Grows ts ts'' :=
  ⟨h.size.trans h'.size, fun i hi ↦ h'.cancelled i (h.cancelled i hi)⟩

theorem make (ts : Tokens) (parent : Option Nat) : Grows ts (ts.make parent) := by
  refine ⟨Nat.le_succ _, fun i hi ↦ ?_⟩
  have hlt : i < ts.made.length := lt_of_isCancelledIn hi
  rw [isCancelled, Tokens.make, isCancelledIn, if_neg (Nat.ne_of_lt hlt)]
  exact hi

theorem cancel (ts : Tokens) (i : Nat) : Grows ts (ts.cancel i) := by
  refine ⟨(size_cancel ts i).ge, fun j hj ↦ ?_⟩
  rw [isCancelled, made_cancel]
  exact isCancelledIn_cancelIn hj

end Grows

/-! ## Older tokens -/

theorem cancelIn_of_le {made : List Token} (h : made.length ≤ i) : cancelIn i made = made := by
  induction made with
  | nil => rfl
  | cons t older ih =>
    have hlt : older.length < i := h
    rw [cancelIn, if_neg hlt.ne', ih hlt.le]

theorem isCancelledIn_cancelIn_of_lt {made : List Token} (h : j < i) :
    isCancelledIn (cancelIn i made) j = isCancelledIn made j := by
  induction made with
  | nil => rfl
  | cons t older ih =>
    unfold cancelIn
    split
    · next hi => rw [isCancelledIn, isCancelledIn, if_neg (hi ▸ h).ne, if_neg (hi ▸ h).ne]
    · rw [isCancelledIn, isCancelledIn, length_cancelIn]
      split
      · next hj => rw [cancelIn_of_le (hj ▸ h).le]
      · exact ih

/-- Cancelling a token leaves the older ones as they are. -/
theorem isCancelled_cancel_of_lt (h : j < i) :
    (ts.cancel i).isCancelled j = ts.isCancelled j := by
  rw [isCancelled, made_cancel]
  exact isCancelledIn_cancelIn_of_lt h

/-- So does making one. -/
theorem isCancelled_make_of_lt {parent : Option Nat} (h : j < ts.size) :
    (ts.make parent).isCancelled j = ts.isCancelled j :=
  if_neg (Nat.ne_of_lt h)

/-- A token is cancelled once it was cancelled. -/
theorem isCancelled_cancel_self (h : i < ts.size) : (ts.cancel i).isCancelled i := by
  rw [isCancelled, made_cancel]
  exact isCancelledIn_self h

end Tokens

end StageRelay
