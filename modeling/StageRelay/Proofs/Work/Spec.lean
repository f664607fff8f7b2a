import StageRelay.Work.Basic

/-!
# What jobs need

A specification of calls says what a call needs for something to hold once it is answered, given
some state. What a job needs follows by going through its calls.
-/

namespace StageRelay

/-- What calls need, depending on a state, for something to hold of the answer and of the state
after it. -/
structure CallSpec (γ : Type u) where
  needs : {β : Type} → Call β → (β → γ → Prop) → γ → Prop
  mono : ∀ {β : Type} {c : Call β} {Q Q' : β → γ → Prop} {g : γ},
    (∀ b g, Q b g → Q' b g) → needs c Q g → needs c Q' g

namespace Job

variable {α β : Type} {γ : Type u} {T : CallSpec γ}

@[simp] theorem pure_eq (a : α) : (Pure.pure a : Job α) = done a := rfl

@[simp] theorem bind_eq (j : Job α) (f : α → Job β) : j >>= f = j.bind f := rfl

instance : LawfulMonad Job := LawfulMonad.mk' Job bind_done (fun _ _ ↦ rfl) bind_assoc

/-- What a job needs for something to hold of its result. -/
def wp (T : CallSpec γ) : Job α → (α → γ → Prop) → γ → Prop
  | done a, Q => Q a
  | call c next, Q => T.needs c fun b ↦ (next b).wp T Q

@[simp] theorem wp_done (a : α) (Q : α → γ → Prop) : (done a).wp T Q = Q a := rfl

@[simp] theorem wp_call (c : Call β) (next : β → Job α) (Q : α → γ → Prop) :
    (call c next).wp T Q = T.needs c fun b ↦ (next b).wp T Q := rfl

@[simp] theorem wp_ask (c : Call β) (Q : β → γ → Prop) : (ask c).wp T Q = T.needs c Q := rfl

@[simp] theorem wp_bind (j : Job α) (f : α → Job β) (Q : β → γ → Prop) :
    (j.bind f).wp T Q = j.wp T fun a ↦ (f a).wp T Q := by
  induction j with
  | done a => rfl
  | call c next ih => simp only [bind, wp_call, ih]

theorem wp_mono {Q Q' : α → γ → Prop} (h : ∀ a g, Q a g → Q' a g) {j : Job α} {g : γ}
    (hj : j.wp T Q g) : j.wp T Q' g := by
  induction j generalizing g with
  | done a => exact h a g hj
  | call c next ih => exact T.mono (fun b g hb ↦ ih b hb) hj

theorem wp_forM {P : γ → Prop} {f : α → Job PUnit} {as : List α}
    (hf : ∀ a ∈ as, ∀ g, P g → (f a).wp T (fun _ ↦ P) g) {g : γ} (hg : P g) :
    (as.forM f).wp T (fun _ ↦ P) g := by
  induction as generalizing g with
  | nil => exact hg
  | cons a as ih =>
    obtain ⟨ha, has⟩ := List.forall_mem_cons.1 hf
    rw [List.forM, bind_eq, wp_bind]
    exact wp_mono (fun _ g hg ↦ ih has hg) (ha g hg)

/-! ## Jobs that can fail -/

section Fails

variable {ε : Type} {Q : α → γ → Prop} {E : ε → γ → Prop}

/-- What a job that can fail needs for something to hold if it succeeds, and something else if
it fails. -/
def wpe (T : CallSpec γ) (j : ExceptT ε Job α) (Q : α → γ → Prop) (E : ε → γ → Prop) : γ → Prop :=
  j.run.wp T fun r g ↦
    match r with
    | .ok a => Q a g
    | .error e => E e g

@[simp] theorem wpe_pure (a : α) : wpe T (Pure.pure a : ExceptT ε Job α) Q E = Q a := rfl

@[simp] theorem wpe_throw (e : ε) : wpe T (throw e : ExceptT ε Job α) Q E = E e := rfl

@[simp] theorem wpe_lift (j : Job α) : wpe T (ExceptT.lift j : ExceptT ε Job α) Q E = j.wp T Q := by
  show (j.bind (done ∘ Except.ok)).wp T _ = _
  rw [wp_bind]
  rfl

@[simp] theorem wpe_bind {R : β → γ → Prop} (j : ExceptT ε Job α) (f : α → ExceptT ε Job β) :
    wpe T (j >>= f) R E = wpe T j (fun a ↦ wpe T (f a) R E) E := by
  rw [wpe, ExceptT.run_bind, bind_eq, wp_bind]
  congr 1
  funext r
  cases r with
  | ok a => rfl
  | error e => rfl

theorem wpe_mono {Q' : α → γ → Prop} {E' : ε → γ → Prop} (hq : ∀ a g, Q a g → Q' a g)
    (he : ∀ e g, E e g → E' e g) {j : ExceptT ε Job α} {g : γ} (hj : wpe T j Q E g) :
    wpe T j Q' E' g := by
  refine wp_mono ?_ hj
  intro r g hr
  cases r with
  | ok a => exact hq a g hr
  | error e => exact he e g hr

end Fails

/-! ## Calls of a job -/

section Only

variable {p : {β : Type} → Call β → Prop} {ε : Type}

/-- Whether all calls of a job are of some sort, whatever they are answered. -/
def Only (p : {β : Type} → Call β → Prop) : Job α → Prop
  | done _ => True
  | call c next => p c ∧ ∀ b, (next b).Only p

theorem only_ask {c : Call α} (h : p c) : (ask c).Only p := ⟨h, fun _ ↦ trivial⟩

theorem Only.mono {q : {β : Type} → Call β → Prop} {j : Job α} (hj : j.Only p)
    (h : ∀ {β : Type} (c : Call β), p c → q c) : j.Only q := by
  induction j with
  | done a => trivial
  | call c next ih => exact ⟨h c hj.1, fun b ↦ ih b (hj.2 b)⟩

theorem only_bind {j : Job α} {f : α → Job β} (hj : j.Only p) (hf : ∀ a, (f a).Only p) :
    (j.bind f).Only p := by
  induction j with
  | done a => exact hf a
  | call c next ih => exact ⟨hj.1, fun b ↦ ih b (hj.2 b)⟩

theorem only_forM {f : α → Job PUnit} {as : List α} (hf : ∀ a ∈ as, (f a).Only p) :
    (as.forM f).Only p := by
  induction as with
  | nil => trivial
  | cons a as ih =>
    obtain ⟨ha, has⟩ := List.forall_mem_cons.1 hf
    exact only_bind ha fun _ ↦ ih has

theorem only_lift {j : Job α} (hj : j.Only p) : (ExceptT.lift j : ExceptT ε Job α).run.Only p :=
  only_bind hj fun _ ↦ trivial

theorem only_run_bind {j : ExceptT ε Job α} {f : α → ExceptT ε Job β} (hj : j.run.Only p)
    (hf : ∀ a, (f a).run.Only p) : (j >>= f).run.Only p := by
  refine only_bind hj ?_
  intro r
  cases r with
  | ok a => exact hf a
  | error e => trivial

/-- Calls of a sort, answered in any way. -/
def sort (p : {β : Type} → Call β → Prop) : CallSpec Unit where
  needs c Q _ := p c ∧ ∀ b, Q b ()
  mono h hc := ⟨hc.1, fun b ↦ h b () (hc.2 b)⟩

theorem Only.of_wp {j : Job α} {Q : α → Unit → Prop} (h : j.wp (sort p) Q ()) : j.Only p := by
  induction j with
  | done a => trivial
  | call c next ih => exact ⟨h.1, fun b ↦ ih b (h.2 b)⟩

end Only

end Job

end StageRelay
