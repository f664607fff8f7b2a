import StageRelay.Conversion
import StageRelay.FileStore
import StageRelay.Registry.Basic
import StageRelay.Release
import StageRelay.Work.Measure

/-!
# Work

The handling of a change and the commit of a stage are jobs: they call on the services around them
and go on with what those answer. A host answers calls from a state of its own, so that whatever
services may do between two calls, some host does it.
-/

namespace StageRelay

/-- What a converter does. -/
inductive Converted where
  | configuration (c : Configuration)
  | refused (e : ConvertError)
  | crashed
deriving Repr

/-- A call on a service, by the type of the answer. -/
inductive Call : Type → Type 1 where
  | get (kind : Kind) (key : ResourceKey) : Call (Except RegistryError Resource)
  | list (kind : Kind) (stage : Stage) : Call (Except RegistryError (List Resource))
  | stages : Call (Except RegistryError (List Stage))
  /-- Opens a watch and tells its number. -/
  | watch : Call (Except RegistryError Nat)
  | convert (stage : Stage) (resources : StageResources) : Call Converted
  | sync (gateway stage : String) (c : Configuration) : Call (Except SyncError Unit)
  | flush : Call (Except SyncError Unit)
  /-- Withdraws the stages other than those with the given keys. -/
  | prune (existing : List String) : Call (Except SyncError Unit)
  | report (stage : Stage) (status : ReleaseStatus) : Call Unit
  /-- Makes a stage wait. -/
  | postpone (stage : Stage) : Call Unit
  /-- Takes out the stages that have waited long enough. -/
  | drain : Call (List Stage)
  /-- Tells the time. -/
  | clock : Call Nat
  | note (m : Measure) : Call Unit

/-- A computation that calls on services. -/
inductive Job (α : Type) : Type 1 where
  | done (a : α)
  | call {β : Type} (c : Call β) (next : β → Job α)

namespace Job

variable {α β γ : Type}

/-- Goes on after a job. -/
def bind : Job α → (α → Job β) → Job β
  | done a, f => f a
  | call c next, f => call c fun b ↦ (next b).bind f

instance : Monad Job where
  pure := done
  bind := bind

/-- The job of a single call. -/
def ask (c : Call β) : Job β :=
  call c done

/-- Takes a measure. -/
def note (m : Measure) : Job Unit :=
  ask (.note m)

theorem bind_done (j : Job α) : j.bind done = j := by
  induction j with
  | done a => rfl
  | call c next ih => simp only [bind, ih]

theorem bind_assoc (j : Job α) (f : α → Job β) (g : β → Job γ) :
    (j.bind f).bind g = j.bind fun a ↦ (f a).bind g := by
  induction j with
  | done a => rfl
  | call c next ih => simp only [bind, ih]

end Job

/-- Services with a state. -/
structure Host (σ : Type) where
  answer : {β : Type} → Call β → σ → β × σ

namespace Job

variable {α β σ : Type}

/-- The result of a job among services, and what it leaves behind. -/
def run (h : Host σ) : Job α → σ → α × σ
  | done a, s => (a, s)
  | call c next, s =>
    let (b, s) := h.answer c s
    (next b).run h s

@[simp] theorem run_done (h : Host σ) (a : α) (s : σ) : (done a).run h s = (a, s) := rfl

@[simp] theorem run_call (h : Host σ) (c : Call β) (next : β → Job α) (s : σ) :
    (call c next).run h s = (next (h.answer c s).1).run h (h.answer c s).2 := rfl

@[simp] theorem run_bind (h : Host σ) (j : Job α) (f : α → Job β) (s : σ) :
    (j.bind f).run h s = (f (j.run h s).1).run h (j.run h s).2 := by
  induction j generalizing s with
  | done a => rfl
  | call c next ih => simp only [bind, run_call, ih]

end Job

end StageRelay
