import StageRelay.Proofs.Agent.Triple
import StageRelay.Proofs.Work.Executions

/-!
# What handlers call and keep

To handle a notice the agent asks the registry, makes the stage of the notice wait, and counts. What
waits to be handled again changes at most at the end, when a notice that failed is queued.
-/

namespace StageRelay

/-- A call on the registry, or one that makes one of some stages wait. -/
def Call.Handles (stages : List Stage) {β : Type} : Call β → Prop
  | .get _ _ | .list _ _ | .stages => True
  | .postpone s => s ∈ stages
  | _ => False

/-- So is one that tells the time or takes a measure. -/
def Call.Serves (stages : List Stage) {β : Type} : Call β → Prop
  | .clock | .note _ => True
  | c => c.Handles stages

theorem Call.Handles.serves {stages : List Stage} {β : Type} {c : Call β} (h : c.Handles stages) :
    c.Serves stages := by
  cases c with
  | clock => trivial
  | note m => trivial
  | _ => exact h

namespace Agent

/-! ## Parts of handlers -/

section Parts

variable {α : Type} {stages : List Stage} {q : RetryQueue}

/-- An attempt that makes only calls of a handler and queues nothing. -/
abbrev Handles (stages : List Stage) (q : RetryQueue) (w : Attempt α) : Prop :=
  Triple (Job.sort (Call.Handles stages)) (fun a _ ↦ a.retries = q) w (fun _ a _ ↦ a.retries = q)
    fun a _ ↦ a.retries = q

theorem handles_attempt {c : Call α} (h : c.Handles stages) : Handles stages q (attempt c) :=
  .attempt fun _ _ ha ↦ ⟨h, fun _ ↦ ha⟩

theorem handles_pure {x : α} : Handles stages q (pure x) :=
  .pure fun _ _ ↦ id

theorem handles_orThrow {ε : Type} (wrap : ε → AgentError) (r : Except ε α) :
    Handles stages q (orThrow wrap r) :=
  .orThrow (fun _ _ _ _ ↦ id) fun _ _ _ _ ↦ id

theorem handles_find? (kind : Kind) (key : ResourceKey) : Handles stages q (find? kind key) := by
  refine .bind (handles_attempt trivial) ?_
  rintro ((⟨kind, key⟩ | reason) | r)
  · exact handles_pure
  · exact .throw fun _ _ ↦ id
  · exact handles_pure

theorem handles_touch (stage : Stage) : Handles stages q (touch stage) :=
  .modify fun _ _ ↦ id

theorem handles_withdraw (stage : Stage) (key : ResourceKey) :
    Handles stages q (withdraw stage key) :=
  .bind (Q := fun x a _ ↦ x.retries = q ∧ a.retries = q) (.get fun _ _ h ↦ ⟨h, h⟩) fun _ ↦
    .bind (.set fun _ _ h ↦ h.1) fun _ ↦ handles_pure

theorem handles_store (stage : Stage) (key : ResourceKey) (c : Certificate) :
    Handles stages q (store stage key c) :=
  .bind (Q := fun x a _ ↦ x.retries = q ∧ a.retries = q) (.get fun _ _ h ↦ ⟨h, h⟩) fun _ ↦
    .bind (.set fun _ _ h ↦ h.1) fun _ ↦ handles_orThrow _ _

theorem handles_postponeIf (changed : Bool) {stage : Stage} (h : stage ∈ stages) :
    Handles stages q (postponeIf changed stage) := by
  cases changed with
  | true => exact handles_attempt h
  | false => exact handles_pure

end Parts

/-! ## Handlers -/

section Handlers

variable {stages : List Stage} {q : RetryQueue} {stage : Stage} (h : stage ∈ stages)
include h

theorem handles_indexBinding (key : ResourceKey) :
    Handles stages q (indexBinding stage key) := by
  have hstore (key : ResourceKey) (c : Certificate) : Handles stages q
      (do let changed ← store stage key c; postponeIf changed stage) :=
    .bind (handles_store stage key c) fun changed ↦ handles_postponeIf changed h
  unfold indexBinding
  refine .bind (handles_touch stage) fun _ ↦ ?_
  refine .bind (handles_find? _ _) ?_
  rintro (_ | r)
  · exact .bind (handles_withdraw _ _) fun changed ↦ handles_postponeIf changed h
  · refine .bind (handles_orThrow _ _) fun b ↦ ?_
    split
    · exact handles_pure
    · refine .bind (handles_find? _ _) ?_
      rintro (_ | secret)
      · exact .bind (handles_withdraw _ _) fun changed ↦ handles_postponeIf changed h
      · exact .bind (handles_orThrow _ _) fun data ↦ hstore _ _

theorem handles_indexSecret (key : ResourceKey) : Handles stages q (indexSecret stage key) := by
  have hrest (changed : Bool) : Handles stages q
      (do postponeIf changed stage; indexBindingsOf stage key.name) := by
    refine .bind (handles_postponeIf changed h) fun _ ↦ ?_
    refine .bind (handles_attempt trivial) fun listed ↦ ?_
    refine .bind (handles_orThrow _ _) fun bindings ↦ ?_
    exact .forM (I := fun _ a _ ↦ a.retries = q) (fun r _ ↦ handles_indexBinding h r.key) _
  unfold indexSecret
  refine .bind (handles_touch stage) fun _ ↦ ?_
  refine .bind (handles_find? _ _) ?_
  rintro (_ | r)
  · exact .bind (handles_withdraw _ _) hrest
  · refine .bind (handles_orThrow _ _) fun data ↦ ?_
    exact .bind (handles_store _ _ _) hrest

end Handlers

/-! ## Executions -/

end Agent

/-- Whether a notice concerns certificates, or all stages. -/
def Notice.concernsCertificates (n : Notice) : Bool :=
  n.kind ≠ .gatewayInstance && (n.isAll || n.kind.isCertificate)

namespace Agent

variable {most : UInt32} {n : Notice} {a a' : AgentState} {calls : List Answered}

/-- A notice that was not yet tried too often is handled by calls of a handler. -/
theorem handles_handleCertificates {q : RetryQueue} (hn : n.retries ≤ most) :
    Handles [n.stage] q (handleCertificates most n) := by
  have hmem : n.stage ∈ [n.stage] := List.mem_singleton.2 rfl
  unfold handleCertificates
  split
  · next hlt => exact absurd hn (UInt32.not_le.2 hlt)
  split
  · exact .bind (handles_indexSecret hmem _) fun _ ↦ handles_pure
  · exact .bind (handles_indexBinding hmem _) fun _ ↦ handles_pure
  · exact .bind (handles_attempt trivial) fun _ ↦ handles_orThrow _ _

theorem handleCertificates_reaches {r : Except AgentError (List Stage)} (hn : n.retries ≤ most)
    (h : ((handleCertificates most n).run.run a).Reaches calls (.done (r, a'))) :
    (∀ x ∈ calls, x.call.Handles [n.stage]) ∧ a'.retries = a.retries := by
  obtain ⟨hcalls, hr⟩ := h.of_sort (handles_handleCertificates hn a () rfl)
  refine ⟨hcalls, ?_⟩
  cases r with
  | ok batch => exact hr
  | error e => exact hr

/-- How a notice is queued again: the calls, what is left to do, and what is kept. -/
inductive Reschedules (n : Notice) (a : AgentState) :
    List Answered → Handled → AgentState → Prop
  /-- It was tried so often that this cannot be counted. -/
  | uncounted (hn : n.retries.toNat + 1 = UInt32.size) : Reschedules n a [] .crashed a
  | scheduled {q : RetryQueue} {now time time' : Nat} (hn : n.retries.toNat + 1 ≠ UInt32.size)
    (hq : a.retries.push now { n with retries := n.retries + 1 } = .accepted q) :
    Reschedules n a [⟨.clock, now, time⟩, ⟨.note (.retry .scheduled), (), time'⟩] (.batch [])
      { a with retries := q }
  | dropped {now time time' : Nat} (hn : n.retries.toNat + 1 ≠ UInt32.size)
    (hq : a.retries.push now { n with retries := n.retries + 1 } = .full) :
    Reschedules n a [⟨.clock, now, time⟩, ⟨.note (.retry .dropped), (), time'⟩] (.batch []) a
  /-- The delay is too long to be kept track of. -/
  | beyond {now time : Nat} (hn : n.retries.toNat + 1 ≠ UInt32.size)
    (hq : a.retries.push now { n with retries := n.retries + 1 } = .beyond) :
    Reschedules n a [⟨.clock, now, time⟩] .crashed a

/-- The calls of queueing a notice again. -/
theorem run_retryLater_eq (n : Notice) (a : AgentState) : (retryLater n).run a =
    if n.retries.toNat + 1 = UInt32.size then .done (.crashed, a)
    else .call .clock fun now ↦
      match a.retries.push now { n with retries := n.retries + 1 } with
      | .accepted q =>
        .call (.note (.retry .scheduled)) fun _ ↦ .done (.batch [], { a with retries := q })
      | .full => .call (.note (.retry .dropped)) fun _ ↦ .done (.batch [], a)
      | .beyond => .done (.crashed, a) := by
  unfold retryLater
  split
  · rfl
  · show Job.call _ _ = Job.call _ _
    congr 1
    funext now
    show StateT.run (match a.retries.push now _ with
      | .accepted _ => _
      | .full => _
      | .beyond => _) a = _
    cases a.retries.push now { n with retries := n.retries + 1 } <;> rfl

theorem retryLater_reaches {r : Handled}
    (h : ((retryLater n).run a).Reaches calls (.done (r, a'))) : Reschedules n a calls r a' := by
  rw [run_retryLater_eq] at h
  split at h
  · next hn =>
    cases h
    exact .uncounted hn
  · next hn =>
    cases h with
    | @call _ _ _ now time _ _ h =>
      dsimp only at h
      split at h
      · next q hq =>
        cases h with
        | call h =>
          cases h
          exact .scheduled hn hq
      · next hq =>
        cases h with
        | call h =>
          cases h
          exact .dropped hn hq
      · next hq =>
        cases h
        exact .beyond hn hq

/-- All of these may happen. -/
theorem Reschedules.reaches {r : Handled} (h : Reschedules n a calls r a') :
    ((retryLater n).run a).Reaches calls (.done (r, a')) := by
  rw [run_retryLater_eq]
  cases h with
  | uncounted hn =>
    rw [if_pos hn]
    exact .refl _
  | scheduled hn hq =>
    rw [if_neg hn]
    refine .call ?_
    rw [hq]
    exact .call (.refl _)
  | dropped hn hq =>
    rw [if_neg hn]
    refine .call ?_
    rw [hq]
    exact .call (.refl _)
  | beyond hn hq =>
    rw [if_neg hn]
    refine .call ?_
    rw [hq]
    exact .refl _

/-- How the handling of a notice goes: the calls, what is left to do, and what is kept. -/
inductive Conducts (most : UInt32) (n : Notice) (a : AgentState) :
    List Answered → Handled → AgentState → Prop
  /-- A notice of anything else makes its stage wait at most. -/
  | passed {time : Nat} {calls : List Answered} (hn : n.concernsCertificates = false)
    (hcalls : ∀ x ∈ calls, x.call.Handles [n.stage]) :
    Conducts most n a (⟨.note (.received n.kind), (), time⟩ :: calls) (.batch []) a
  | exhausted {time time' : Nat} (hn : n.concernsCertificates = true) (hmost : most < n.retries) :
    Conducts most n a
      [⟨.note (.received n.kind), (), time⟩, ⟨.note (.retry .exhausted), (), time'⟩] (.batch []) a
  | succeeded {time : Nat} {calls : List Answered} {batch : List Stage} {a' : AgentState}
    (hn : n.concernsCertificates = true) (hmost : n.retries ≤ most)
    (h : ((handleCertificates most n).run.run a).Reaches calls (.done (.ok batch, a'))) :
    Conducts most n a (⟨.note (.received n.kind), (), time⟩ :: calls) (.batch batch) a'
  | failed {time : Nat} {calls calls' : List Answered} {e : AgentError} {r : Handled}
    {a' a'' : AgentState} (hn : n.concernsCertificates = true) (hmost : n.retries ≤ most)
    (h : ((handleCertificates most n).run.run a).Reaches calls (.done (.error e, a')))
    (h' : Reschedules n a' calls' r a'') :
    Conducts most n a (⟨.note (.received n.kind), (), time⟩ :: calls ++ calls') r a''

/-- The first call of handling a notice, and what follows it. -/
theorem run_handle_eq (most : UInt32) (n : Notice) (a : AgentState) : (handle most n).run a =
    .call (.note (.received n.kind)) fun _ ↦
      StateT.run (if n.kind = .gatewayInstance then return .batch []
        else if n.isAll || n.kind.isCertificate then do
          match ← (handleCertificates most n).run with
          | .ok stages => return .batch stages
          | .error _ => retryLater n
        else do
          ask (.postpone n.stage)
          return .batch []) a := rfl

theorem handle_reaches {r : Handled}
    (h : ((handle most n).run a).Reaches calls (.done (r, a'))) : Conducts most n a calls r a' := by
  rw [run_handle_eq] at h
  cases h with
  | @call _ _ _ _ time calls _ h =>
    dsimp only at h
    split at h
    · next hkind =>
      cases h
      exact .passed (by simp [Notice.concernsCertificates, hkind]) (List.forall_mem_nil _)
    · next hkind =>
      split at h
      · next hcares =>
        have hn : n.concernsCertificates = true := by
          simp only [Notice.concernsCertificates, hcares, Bool.and_true, decide_eq_true_eq]
          exact hkind
        rw [StateT.run_bind] at h
        obtain ⟨calls₁, calls₂, ⟨result, a₁⟩, rfl, h₁, h₂⟩ := h.of_bind
        by_cases hmost : n.retries ≤ most
        · cases result with
          | ok batch =>
            cases h₂
            rw [List.append_nil]
            exact .succeeded hn hmost h₁
          | error e => exact .failed hn hmost h₁ (retryLater_reaches h₂)
        · have hmost := UInt32.not_le.1 hmost
          have hdrop : ((handleCertificates most n).run.run a) =
              .call (.note (.retry .exhausted)) fun _ ↦ .done (.ok [], a) := by
            unfold handleCertificates
            rw [if_pos hmost]
            rfl
          rw [hdrop] at h₁
          cases h₁ with
          | call h₁ =>
            cases h₁
            cases h₂
            exact .exhausted hn hmost
      · next hcares =>
        cases h with
        | call h =>
          cases h
          refine .passed (by simp [Notice.concernsCertificates, hcares]) ?_
          exact List.forall_mem_singleton.2 (List.mem_singleton.2 rfl)

/-- A notice whose attempt failed is queued again. -/
theorem handle_reaches_of_failed {calls' : List Answered} {e : AgentError} {r : Handled}
    {a'' : AgentState} {t : Nat} (hn : n.concernsCertificates = true)
    (h : ((handleCertificates most n).run.run a).Reaches calls (.done (.error e, a')))
    (h' : Reschedules n a' calls' r a'') : ((handle most n).run a).Reaches
      (⟨.note (.received n.kind), (), t⟩ :: (calls ++ calls')) (.done (r, a'')) := by
  obtain ⟨hkind, hcares⟩ :
      n.kind ≠ .gatewayInstance ∧ (n.isAll || n.kind.isCertificate) = true := by
    simpa [Notice.concernsCertificates] using hn
  rw [run_handle_eq]
  refine .call ?_
  rw [if_neg hkind, if_pos hcares, StateT.run_bind]
  exact h.bind h'.reaches

/-! ## Calls -/

theorem handleCertificates_only (most : UInt32) (n : Notice) (a : AgentState) :
    ((handleCertificates most n).run.run a).Only (Call.Serves [n.stage]) := by
  by_cases hmost : n.retries ≤ most
  · exact (Job.Only.of_wp (handles_handleCertificates hmost a () rfl)).mono fun _ hc ↦ hc.serves
  · unfold handleCertificates
    rw [if_pos (UInt32.not_le.1 hmost)]
    exact ⟨trivial, fun _ ↦ trivial⟩

theorem retryLater_only (stages : List Stage) (n : Notice) (a : AgentState) :
    ((retryLater n).run a).Only (Call.Serves stages) := by
  rw [run_retryLater_eq]
  split
  · trivial
  · refine ⟨trivial, fun now ↦ ?_⟩
    dsimp only
    split
    · exact ⟨trivial, fun _ ↦ trivial⟩
    · exact ⟨trivial, fun _ ↦ trivial⟩
    · trivial

/-- To handle a notice takes only calls of a handler, the time and measures. -/
theorem handle_only (most : UInt32) (n : Notice) (a : AgentState) :
    ((handle most n).run a).Only (Call.Serves [n.stage]) := by
  rw [run_handle_eq]
  refine ⟨trivial, fun _ ↦ ?_⟩
  split
  · trivial
  · split
    · rw [StateT.run_bind]
      refine Job.only_bind (handleCertificates_only most n a) ?_
      rintro ⟨e | stages, a'⟩
      · exact retryLater_only _ n a'
      · trivial
    · exact ⟨List.mem_singleton.2 rfl, fun _ ↦ trivial⟩

end Agent

end StageRelay
