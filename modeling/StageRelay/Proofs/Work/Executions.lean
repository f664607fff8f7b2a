import StageRelay.Debounce
import StageRelay.Proofs.Work.Spec

/-!
# Executions of jobs

The calls that a job makes, with what each was answered and when. Nothing is assumed of the answers,
so what holds of all executions holds whatever fails, and whoever else calls in between.
-/

namespace StageRelay

/-- A call that was answered at a time. -/
structure Answered : Type 1 where
  {Answer : Type}
  call : Call Answer
  answer : Answer
  time : Nat

namespace Job

variable {α : Type} {j : Job α} {calls : List Answered}

/-- What is left of a job after some calls. -/
inductive Reaches : Job α → List Answered → Job α → Prop
  | refl (j : Job α) : Reaches j [] j
  | call {β : Type} {c : Call β} {next : β → Job α} {b : β} {time : Nat} {calls : List Answered}
    {j : Job α} (h : Reaches (next b) calls j) : Reaches (.call c next) (⟨c, b, time⟩ :: calls) j

theorem Reaches.concat {β : Type} {c : Call β} {next : β → Job α}
    (h : j.Reaches calls (.call c next)) (b : β) (time : Nat) :
    j.Reaches (calls ++ [⟨c, b, time⟩]) (next b) := by
  generalize hj' : Job.call c next = j' at h
  induction h with
  | refl j =>
    subst hj'
    exact .call (.refl _)
  | call h ih => exact .call (ih hj')

/-- Calls that are answered in any way at any time. -/
def answered : CallSpec (List Answered) where
  needs c Q calls := ∀ b time, Q b (calls ++ [⟨c, b, time⟩])
  mono h hc b time := h b _ (hc b time)

/-- What is shown of the calls of a job holds of each of its executions. -/
theorem Reaches.of_wp {a : α} (h : j.Reaches calls (.done a)) {Q : α → List Answered → Prop}
    {before : List Answered} (hj : j.wp answered Q before) : Q a (before ++ calls) := by
  generalize hj' : Job.done a = j' at h
  induction h generalizing before with
  | refl j =>
    subst hj'
    rwa [List.append_nil]
  | @call _ c next b time calls j h ih =>
    have hnext := ih (hj b time) hj'
    rwa [List.append_assoc, List.singleton_append] at hnext

theorem Reaches.bind {β : Type} {f : α → Job β} {calls' : List Answered} {a : α} {j' : Job β}
    (h : j.Reaches calls (.done a)) (h' : (f a).Reaches calls' j') :
    (j.bind f).Reaches (calls ++ calls') j' := by
  generalize hdone : Job.done a = last at h
  induction h with
  | refl j =>
    subst hdone
    exact h'
  | call h ih => exact .call (ih hdone)

/-- An execution of a sequence is one of its first part and one of what follows it. -/
theorem Reaches.of_bind {β : Type} {f : α → Job β} {b : β}
    (h : (j.bind f).Reaches calls (.done b)) : ∃ calls₁ calls₂ a, calls = calls₁ ++ calls₂ ∧
      j.Reaches calls₁ (.done a) ∧ (f a).Reaches calls₂ (.done b) := by
  induction j generalizing calls with
  | done a => exact ⟨[], calls, a, rfl, .refl _, h⟩
  | call c next ih =>
    cases h with
    | call h =>
      obtain ⟨calls₁, calls₂, a, rfl, h₁, h₂⟩ := ih _ h
      exact ⟨_ :: calls₁, calls₂, a, rfl, .call h₁, h₂⟩

/-- What calls of a sort need, whatever they are answered, holds of every execution. -/
theorem Reaches.of_sort {p : {β : Type} → Call β → Prop} {a : α} {Q : α → Unit → Prop}
    (h : j.Reaches calls (.done a)) (hj : j.wp (sort p) Q ()) :
    (∀ x ∈ calls, p x.call) ∧ Q a () := by
  generalize hj' : Job.done a = j' at h
  induction h with
  | refl j =>
    subst hj'
    exact ⟨List.forall_mem_nil _, hj⟩
  | @call _ c next b time calls j h ih =>
    obtain ⟨hcalls, ha⟩ := ih (hj.2 b) hj'
    exact ⟨List.forall_mem_cons.2 ⟨hj.1, hcalls⟩, ha⟩

/-- If all calls of a job are of some sort, so are those it has made and those it has yet to
make. -/
theorem Only.of_reaches {p : {β : Type} → Call β → Prop} {j' : Job α} (hj : j.Only p)
    (h : j.Reaches calls j') : (∀ a ∈ calls, p a.call) ∧ j'.Only p := by
  induction h with
  | refl j => exact ⟨List.forall_mem_nil _, hj⟩
  | @call _ c next b time calls j h ih =>
    obtain ⟨hcalls, hj'⟩ := ih (hj.2 b)
    exact ⟨List.forall_mem_cons.2 ⟨hj.1, hcalls⟩, hj'⟩

/-- The calls of a job among services. -/
def callsAmong {σ : Type} (h : Host σ) (clock : σ → Nat) : Job α → σ → List Answered
  | done _, _ => []
  | call c next, s =>
    ⟨c, (h.answer c s).1, clock s⟩ :: (next (h.answer c s).1).callsAmong h clock (h.answer c s).2

theorem reaches_run {σ : Type} (h : Host σ) (clock : σ → Nat) (j : Job α) (s : σ) :
    j.Reaches (j.callsAmong h clock s) (.done (j.run h s).1) := by
  induction j generalizing s with
  | done a => exact .refl _
  | call c next ih => exact .call (ih _ _)

end Job

/-! ## Effects -/

/-- What a call does that matters beyond its own stage. -/
inductive Effect where
  | flushed (result : Except SyncError Unit)
  | reported (stage : Stage) (status : ReleaseStatus)
  | postponed (stage : Stage)
  | drained

/-- The effect of an answered call, if it has one. -/
def Answered.effect? : Answered → Option Effect
  | ⟨.flush, result, _⟩ => some (.flushed result)
  | ⟨.report s status, _, _⟩ => some (.reported s status)
  | ⟨.postpone s, _, _⟩ => some (.postponed s)
  | ⟨.drain, _, _⟩ => some .drained
  | _ => none

/-- The effects of answered calls. -/
def effects (calls : List Answered) : List Effect :=
  calls.filterMap Answered.effect?

@[simp] theorem effects_nil : effects [] = [] := rfl

@[simp] theorem effects_cons (a : Answered) (calls : List Answered) :
    effects (a :: calls) = a.effect?.toList ++ effects calls := by
  cases h : a.effect? <;> simp [effects, h]

@[simp] theorem effects_append (calls calls' : List Answered) :
    effects (calls ++ calls') = effects calls ++ effects calls' :=
  List.filterMap_append

namespace Job

variable {α β : Type} {j : Job α} {es es' : List Effect}

/-- Whether a job has certain effects, whatever it is answered. -/
def HasEffects (j : Job α) (es : List Effect) : Prop :=
  ∀ before, j.wp answered (fun _ calls ↦ effects calls = effects before ++ es) before

namespace HasEffects

theorem done (a : α) : (done a).HasEffects [] :=
  fun _ ↦ (List.append_nil _).symm

theorem ask {c : Call α} (h : ∀ a time, (Answered.mk c a time).effect?.toList = es) :
    (ask c).HasEffects es := by
  intro before a time
  rw [wp_done, effects_append, effects_cons, h, effects_nil, List.append_nil]

theorem bind {f : α → Job β} (hj : j.HasEffects es) (hf : ∀ a, (f a).HasEffects es') :
    (j.bind f).HasEffects (es ++ es') := by
  intro before
  rw [wp_bind]
  refine wp_mono ?_ (hj before)
  intro a calls hcalls
  refine wp_mono ?_ (hf a calls)
  intro b calls' hcalls'
  rw [hcalls', hcalls, List.append_assoc]

theorem forM {f : α → Job PUnit} {g : α → List Effect} (hf : ∀ a, (f a).HasEffects (g a))
    (as : List α) : (as.forM f).HasEffects (as.flatMap g) := by
  induction as with
  | nil => exact done _
  | cons a as ih => exact bind (hf a) fun _ ↦ ih

theorem of_reaches (h : j.HasEffects es) {calls : List Answered} {a : α}
    (hr : j.Reaches calls (.done a)) : effects calls = es :=
  hr.of_wp (h [])

end HasEffects

end Job

/-- What an answered call makes of the stages that wait. -/
def Debouncer.after (d : Debouncer) : Answered → Debouncer
  | ⟨.postpone s, _, time⟩ => d.update time s
  | ⟨.drain, _, time⟩ => (d.drain time).2
  | _ => d

end StageRelay
