import StageRelay.Pipeline.Services
import StageRelay.Proofs.Work.Spec

/-!
# Jobs that nobody disturbs

Among services that nobody else changes, what a job needs is what holds after it has run. What is
stored stays the same, as no call of a job changes it.
-/

namespace StageRelay

namespace Services

/-- Calls among services that nobody else changes. -/
def alone : CallSpec Services where
  needs c Q s := Q (s.answer c).1 (s.answer c).2
  mono h := h _ _

/-- No call changes what is stored. -/
@[simp] theorem store_answer {β : Type} (c : Call β) (s : Services) :
    (s.answer c).2.registry.store = s.registry.store := by
  cases c with
  | watch =>
    show (ite _ _ _ : Except RegistryError Nat × Services).2.registry.store = _
    split <;> rfl
  | sync gateway stage config =>
    delta answer
    dsimp only
    cases s.accept gateway stage <;> rfl
  | flush =>
    show (ite _ _ _ : Except SyncError Unit × Services).2.registry.store = _
    split <;> rfl
  | prune existing =>
    show (ite _ _ _ : Except SyncError Unit × Services).2.registry.store = _
    split <;> rfl
  | _ => rfl

@[simp] theorem store_run {α : Type} (j : Job α) (s : Services) :
    (j.run host s).2.registry.store = s.registry.store := by
  induction j generalizing s with
  | done a => rfl
  | call c next ih => exact (ih _ _).trans (store_answer c s)

end Services

theorem Job.wp_alone {α : Type} {j : Job α} {Q : α → Services → Prop} {s : Services} :
    j.wp Services.alone Q s ↔ Q (j.run Services.host s).1 (j.run Services.host s).2 := by
  induction j generalizing s with
  | done a => rfl
  | call c next ih => exact ih _

end StageRelay
