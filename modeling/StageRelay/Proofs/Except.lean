/-!
# Results of sequences

When a sequence of steps that may fail succeeds.
-/

namespace StageRelay

theorem Except.bind_eq_ok_iff {ε : Type u} {α β : Type v} {x : Except ε α} {f : α → Except ε β}
    {b : β} : x >>= f = .ok b ↔ ∃ a, x = .ok a ∧ f a = .ok b := by
  cases x with
  | error e => simp [bind, Except.bind]
  | ok a => simp [bind, Except.bind]

theorem Except.bind_eq_error_iff {ε : Type u} {α β : Type v} {x : Except ε α} {f : α → Except ε β}
    {e : ε} : x >>= f = .error e ↔ x = .error e ∨ ∃ a, x = .ok a ∧ f a = .error e := by
  cases x with
  | error e' => simp [bind, Except.bind]
  | ok a => simp [bind, Except.bind]

theorem Except.toOption_eq_some_iff {ε : Type u} {α : Type v} {x : Except ε α} {a : α} :
    x.toOption = some a ↔ x = .ok a := by
  cases x <;> simp [Except.toOption]

theorem Except.mapError_eq_ok_iff {ε ε' : Type u} {α : Type v} {x : Except ε α} {f : ε → ε'}
    {a : α} : x.mapError f = .ok a ↔ x = .ok a := by
  cases x with
  | error e =>
    show Except.error (f e) = Except.ok a ↔ _
    simp only [reduceCtorEq]
  | ok b =>
    show Except.ok b = Except.ok a ↔ _
    simp only [Except.ok.injEq]

theorem Except.mapError_eq_error_iff {ε ε' : Type u} {α : Type v} {x : Except ε α} {f : ε → ε'}
    {e' : ε'} : x.mapError f = .error e' ↔ ∃ e, x = .error e ∧ f e = e' := by
  cases x with
  | error e =>
    show Except.error (f e) = Except.error e' ↔ _
    simp only [Except.error.injEq, exists_eq_left']
  | ok a =>
    show Except.ok a = Except.error e' ↔ _
    simp only [reduceCtorEq, false_and, exists_false]

/-- What the steps of a sequence that succeeds give. -/
theorem Except.mem_of_mapM_eq_ok {ε : Type u} {α : Type w} {β : Type v} {f : α → Except ε β}
    {as : List α} {bs : List β} (h : as.mapM f = .ok bs) :
    (∀ a ∈ as, ∃ b, f a = .ok b) ∧ ∀ b, b ∈ bs ↔ ∃ a ∈ as, f a = .ok b := by
  induction as generalizing bs with
  | nil =>
    obtain rfl : [] = bs := Except.ok.inj h
    simp
  | cons a as ih =>
    rw [List.mapM_cons, Except.bind_eq_ok_iff] at h
    obtain ⟨b, hb, h⟩ := h
    obtain ⟨bs', hbs, h⟩ := Except.bind_eq_ok_iff.1 h
    obtain rfl : b :: bs' = bs := Except.ok.inj h
    obtain ⟨hsome, hmem⟩ := ih hbs
    refine ⟨List.forall_mem_cons.2 ⟨⟨b, hb⟩, hsome⟩, fun c ↦ ?_⟩
    simp [hmem, hb, eq_comm]

theorem Except.mapM_eq_ok {ε : Type u} {α : Type w} {β : Type v} {f : α → Except ε β} {g : α → β}
    {as : List α} (h : ∀ a ∈ as, f a = .ok (g a)) : as.mapM f = .ok (as.map g) := by
  induction as with
  | nil => rfl
  | cons a as ih =>
    obtain ⟨ha, has⟩ := List.forall_mem_cons.1 h
    rw [List.mapM_cons, ha, ih has]
    rfl

/-- A sequence with a step that fails ends at the first such step. -/
theorem Except.exists_mapM_eq_error {ε : Type u} {α : Type w} {β : Type v} {f : α → Except ε β}
    {as : List α} (h : ∃ a ∈ as, ∀ b, f a ≠ .ok b) : ∃ before a after e,
      as = before ++ a :: after ∧ (∀ x ∈ before, ∃ b, f x = .ok b) ∧ f a = .error e ∧
        as.mapM f = .error e := by
  induction as with
  | nil => simp at h
  | cons a as ih =>
    cases ha : f a with
    | error e =>
      refine ⟨[], a, as, e, rfl, List.forall_mem_nil _, ha, ?_⟩
      rw [List.mapM_cons, ha]
      rfl
    | ok b =>
      obtain ⟨a', hmem, hfails⟩ := h
      have hmem : a' ∈ as := by
        rcases List.mem_cons.1 hmem with rfl | hmem
        · exact absurd ha (hfails b)
        · exact hmem
      obtain ⟨before, a', after, e, rfl, hbefore, he, hmap⟩ := ih ⟨a', hmem, hfails⟩
      refine ⟨a :: before, a', after, e, rfl, List.forall_mem_cons.2 ⟨⟨b, ha⟩, hbefore⟩, he, ?_⟩
      rw [List.mapM_cons, ha, hmap]
      rfl

end StageRelay
