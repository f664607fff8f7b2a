import StageRelay.Agent.Basic
import StageRelay.Proofs.Work.Spec

/-!
# Attempts of the agent

What an attempt leads to, whether it succeeds or fails, in terms of what the agent keeps and of a
state that the calls are specified with.
-/

namespace StageRelay

namespace Agent

variable {α β γ ε : Type} {T : CallSpec γ}

/-! ## Work -/

/-- From `P` work leads to `Q`. -/
def Leads (T : CallSpec γ) (P : AgentState → γ → Prop) (w : Work α)
    (Q : α → AgentState → γ → Prop) : Prop :=
  ∀ a g, P a g → (w.run a).wp T (fun r ↦ Q r.1 r.2) g

namespace Leads

variable {P P' : AgentState → γ → Prop} {Q Q' : α → AgentState → γ → Prop}
  {R : β → AgentState → γ → Prop} {w : Work α}

theorem pure {x : α} (h : ∀ a g, P a g → Q x a g) : Leads T P (pure x) Q := h

theorem bind {f : α → Work β} (hw : Leads T P w Q) (hf : ∀ x, Leads T (Q x) (f x) R) :
    Leads T P (w >>= f) R := by
  intro a g hp
  rw [StateT.run_bind, Job.bind_eq, Job.wp_bind]
  exact Job.wp_mono (fun r g hr ↦ hf r.1 r.2 g hr) (hw a g hp)

theorem mono (hw : Leads T P' w Q') (hp : ∀ a g, P a g → P' a g)
    (hq : ∀ x a g, Q' x a g → Q x a g) : Leads T P w Q :=
  fun a g h ↦ Job.wp_mono (fun r g hr ↦ hq r.1 r.2 g hr) (hw a g (hp a g h))

/-- What holds anyway may be assumed. -/
theorem of_forall {p : Prop} (hp : ∀ a g, P a g → p) (hw : p → Leads T P w Q) : Leads T P w Q :=
  fun a g h ↦ hw (hp a g h) a g h

theorem ask {c : Call α} (h : ∀ a g, P a g → T.needs c (fun b g ↦ Q b a g) g) :
    Leads T P (ask c) Q := h

theorem get {Q : AgentState → AgentState → γ → Prop} (h : ∀ a g, P a g → Q a a g) :
    Leads T P get Q := h

theorem set {Q : PUnit → AgentState → γ → Prop} {b : AgentState} (h : ∀ a g, P a g → Q ⟨⟩ b g) :
    Leads T P (set b) Q := h

end Leads

/-! ## Attempts -/

/-- From `P` an attempt leads to `Q` if it succeeds, and to `E` if it fails. -/
def Triple (T : CallSpec γ) (P : AgentState → γ → Prop) (w : Attempt α)
    (Q : α → AgentState → γ → Prop) (E : AgentState → γ → Prop) : Prop :=
  Leads T P w.run fun r a g ↦
    match r with
    | .ok x => Q x a g
    | .error _ => E a g

namespace Triple

variable {P P' : AgentState → γ → Prop} {Q Q' : α → AgentState → γ → Prop}
  {R : β → AgentState → γ → Prop} {E E' : AgentState → γ → Prop} {w : Attempt α}

theorem pure {x : α} (h : ∀ a g, P a g → Q x a g) : Triple T P (pure x) Q E := h

theorem throw {e : AgentError} (h : ∀ a g, P a g → E a g) : Triple T P (throw e) Q E := h

theorem bind {f : α → Attempt β} (hw : Triple T P w Q E) (hf : ∀ x, Triple T (Q x) (f x) R E) :
    Triple T P (w >>= f) R E := by
  refine Leads.bind hw ?_
  intro r
  cases r with
  | ok x => exact hf x
  | error e => exact Leads.pure fun _ _ ↦ id

theorem mono (hw : Triple T P' w Q' E') (hp : ∀ a g, P a g → P' a g)
    (hq : ∀ x a g, Q' x a g → Q x a g) (he : ∀ a g, E' a g → E a g) : Triple T P w Q E := by
  refine Leads.mono hw hp ?_
  intro r a g hr
  cases r with
  | ok x => exact hq x a g hr
  | error e => exact he a g hr

theorem pre (hw : Triple T P' w Q E) (hp : ∀ a g, P a g → P' a g) : Triple T P w Q E :=
  hw.mono hp (fun _ _ _ ↦ id) fun _ _ ↦ id

theorem post (hw : Triple T P w Q' E) (hq : ∀ x a g, Q' x a g → Q x a g) : Triple T P w Q E :=
  hw.mono (fun _ _ ↦ id) hq fun _ _ ↦ id

theorem post_error (hw : Triple T P w Q E') (he : ∀ a g, E' a g → E a g) : Triple T P w Q E :=
  hw.mono (fun _ _ ↦ id) (fun _ _ _ ↦ id) he

theorem of_forall {p : Prop} (hp : ∀ a g, P a g → p) (hw : p → Triple T P w Q E) :
    Triple T P w Q E :=
  Leads.of_forall hp hw

/-- It is enough to begin in each state in turn. -/
theorem of_state (hw : ∀ a g, P a g → Triple T (fun a' g' ↦ a' = a ∧ g' = g) w Q E) :
    Triple T P w Q E :=
  fun a g hp ↦ hw a g hp a g ⟨rfl, rfl⟩

/-- What is known whatever the state is may be assumed. -/
theorem of_and {p : Prop} (hw : p → Triple T P w Q E) : Triple T (fun a g ↦ p ∧ P a g) w Q E :=
  of_forall (fun _ _ h ↦ h.1) fun hp ↦ (hw hp).pre fun _ _ h ↦ h.2

theorem attempt {c : Call α} (h : ∀ a g, P a g → T.needs c (fun b g ↦ Q b a g) g) :
    Triple T P (attempt c) Q E := h

theorem get {Q : AgentState → AgentState → γ → Prop} (h : ∀ a g, P a g → Q a a g) :
    Triple T P get Q E := h

theorem set {Q : PUnit → AgentState → γ → Prop} {b : AgentState} (h : ∀ a g, P a g → Q ⟨⟩ b g) :
    Triple T P (set b) Q E := h

theorem modify {Q : PUnit → AgentState → γ → Prop} {f : AgentState → AgentState}
    (h : ∀ a g, P a g → Q ⟨⟩ (f a) g) : Triple T P (modify f) Q E := h

theorem orThrow {wrap : ε → AgentError} {r : Except ε α}
    (hok : ∀ x, r = .ok x → ∀ a g, P a g → Q x a g)
    (herror : ∀ e, r = .error e → ∀ a g, P a g → E a g) :
    Triple T P (orThrow wrap r) Q E := by
  cases r with
  | ok x => exact hok x rfl
  | error e => exact herror e rfl

/-- Where something is taken apart first, it could be. -/
theorem orThrow_bind {wrap : ε → AgentError} {r : Except ε α} {f : α → Attempt β}
    (herror : ∀ a g, P a g → E a g) (hok : ∀ x, r = .ok x → Triple T P (f x) R E) :
    Triple T P (Agent.orThrow wrap r >>= f) R E := by
  refine bind (Q := fun x a g ↦ r = .ok x ∧ P a g) ?_ fun x ↦ of_and (hok x)
  exact orThrow (fun _ hx _ _ h ↦ ⟨hx, h⟩) fun _ _ ↦ herror

theorem forM {I : List β → AgentState → γ → Prop} {f : β → Attempt PUnit}
    (hf : ∀ b bs, Triple T (I (b :: bs)) (f b) (fun _ ↦ I bs) E) (bs : List β) :
    Triple T (I bs) (bs.forM f) (fun _ ↦ I []) E := by
  induction bs with
  | nil => exact pure fun _ _ ↦ id
  | cons b bs ih => exact (hf b bs).bind fun _ ↦ ih

end Triple

end Agent

end StageRelay
