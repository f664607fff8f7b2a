import StageRelay.Pipeline.Services
import StageRelay.Proofs.Life.Basic

/-!
# Calls of services

The services answer the calls of a job one after another, and answering takes no time.
-/

namespace StageRelay

namespace Services

variable {s s' s'' : Services} {calls calls' : List Answered}

/-- Calls are answered one after another, and watches may change in between. -/
inductive Follows : Services → List Answered → Services → Prop
  | refl (s : Services) : Follows s [] s
  | call {s s' : Services} {β : Type} {calls : List Answered} (c : Call β)
    (h : Follows (s.answer c).2 calls s') : Follows s (⟨c, (s.answer c).1, s.now⟩ :: calls) s'
  | watches {s s' : Services} {calls : List Answered} (watches : Watches)
    (h : Follows { s with registry := { s.registry with watches } } calls s') : Follows s calls s'

theorem Follows.trans (h : s.Follows calls s') (h' : s'.Follows calls' s'') :
    s.Follows (calls ++ calls') s'' := by
  induction h with
  | refl => exact h'
  | call c _ ih => exact .call c (ih h')
  | watches watches _ ih => exact .watches watches (ih h')

/-- Calls take no time. -/
theorem now_answer (s : Services) {β : Type} (c : Call β) : (s.answer c).2.now = s.now := by
  cases c with
  | sync gateway stage config =>
    unfold answer
    dsimp only
    split <;> rfl
  | watch =>
    show (s.watch).2.now = _
    unfold watch
    dsimp only
    split <;> rfl
  | flush =>
    show (s.flush).2.now = _
    unfold flush
    split <;> rfl
  | prune existing =>
    show (s.prune existing).2.now = _
    unfold prune
    split <;> rfl
  | _ => rfl

theorem Follows.now_eq (h : s.Follows calls s') : s'.now = s.now := by
  induction h with
  | refl => rfl
  | call c _ ih => rw [ih, now_answer]
  | watches _ _ ih => exact ih

/-- The calls of a job. -/
def callsOf {α : Type} (j : Job α) (s : Services) : List Answered :=
  j.callsAmong host now s

theorem follows_run {α : Type} (j : Job α) (s : Services) :
    s.Follows (callsOf j s) (j.run host s).2 := by
  induction j generalizing s with
  | done a => exact .refl s
  | call c next ih => exact .call c (ih _ _)

theorem callsOf_timely {α : Type} (j : Job α) (s : Services) :
    ∀ x ∈ callsOf j s, x.time = s.now ∧ x.call.Tells s.now x.answer := by
  induction j generalizing s with
  | done a => exact List.forall_mem_nil _
  | @call β c next ih =>
    refine List.forall_mem_cons.2 ⟨⟨rfl, ?_⟩, ?_⟩
    · cases c with
      | clock => rfl
      | _ => trivial
    · have hnext := ih (s.answer c).1 (s.answer c).2
      rw [now_answer] at hnext
      exact hnext

end Services

end StageRelay
