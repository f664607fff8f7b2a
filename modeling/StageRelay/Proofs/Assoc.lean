import StageRelay.Assoc

/-!
# Association lists without repeated keys

Every operation keeps the keys distinct, and then each entry is the one that `find?` finds.
-/

namespace StageRelay.Assoc

variable {α : Type u} {β : Type v}

/-- No key has two entries. -/
def Distinct (m : Assoc α β) : Prop :=
  (m.map Prod.fst).Nodup

theorem distinct_nil : Distinct ([] : Assoc α β) := List.nodup_nil

variable [DecidableEq α]

theorem mem_keys_insert {k k' : α} {b : β} {m : Assoc α β} :
    k ∈ (insert k' b m).map Prod.fst ↔ k = k' ∨ k ∈ m.map Prod.fst := by
  induction m with
  | nil => simp [insert]
  | cons e rest ih =>
    obtain ⟨l, c⟩ := e
    simp only [insert]
    split
    · next h => subst h; simp
    · rw [List.map_cons, List.mem_cons, ih, List.map_cons, List.mem_cons]
      exact or_left_comm

theorem Distinct.insert {m : Assoc α β} (hm : m.Distinct) (k : α) (b : β) :
    (m.insert k b).Distinct := by
  induction m with
  | nil => simp [Assoc.insert, Distinct]
  | cons e rest ih =>
    obtain ⟨l, c⟩ := e
    obtain ⟨hl, hrest⟩ := List.nodup_cons.1 hm
    simp only [Assoc.insert]
    split
    · next h => exact List.nodup_cons.2 ⟨h ▸ hl, hrest⟩
    · next h =>
      refine List.nodup_cons.2 ⟨?_, ih hrest⟩
      intro hmem
      rcases mem_keys_insert.1 hmem with heq | hmem
      · exact h heq.symm
      · exact hl hmem

theorem erase_sublist (k : α) (m : Assoc α β) : List.Sublist (Assoc.erase k m) m := by
  induction m with
  | nil => exact List.Sublist.refl []
  | cons e rest ih =>
    simp only [Assoc.erase]
    split
    · exact ih.cons e
    · exact ih.cons_cons e

theorem Distinct.erase {m : Assoc α β} (hm : m.Distinct) (k : α) :
    Distinct (Assoc.erase k m) :=
  List.Nodup.sublist ((erase_sublist k m).map Prod.fst) hm

/-- Where keys are distinct, an entry is found exactly if it is there. -/
theorem Distinct.find?_eq_some_iff {m : Assoc α β} (hm : m.Distinct) {k : α} {b : β} :
    m.find? k = some b ↔ (k, b) ∈ m := by
  induction m with
  | nil => simp
  | cons e rest ih =>
    obtain ⟨l, c⟩ := e
    obtain ⟨hl, hrest⟩ := List.nodup_cons.1 hm
    by_cases hk : k = l
    · subst hk
      have hnot : (k, b) ∉ rest := fun h ↦ hl (List.mem_map.2 ⟨_, h, rfl⟩)
      simp [find?, hnot, eq_comm]
    · simp [find?, hk, ih hrest]

theorem mem_of_mem_insert {k : α} {b : β} {m : Assoc α β} {e : α × β} (h : e ∈ m.insert k b) :
    e = (k, b) ∨ e ∈ m := by
  induction m with
  | nil => exact .inl (List.mem_singleton.1 h)
  | cons f rest ih =>
    simp only [Assoc.insert] at h
    split at h
    · rcases List.mem_cons.1 h with h | h
      · exact .inl h
      · exact .inr (List.mem_cons_of_mem f h)
    · rcases List.mem_cons.1 h with h | h
      · exact .inr (by simp [h])
      · exact (ih h).imp_right (List.mem_cons_of_mem f)

/-- Storing the value that a key has changes nothing. -/
theorem insert_eq_self {k : α} {b : β} {m : Assoc α β} (h : m.find? k = some b) :
    m.insert k b = m := by
  induction m with
  | nil => cases h
  | cons e rest ih =>
    obtain ⟨l, c⟩ := e
    rw [find?] at h
    rw [Assoc.insert]
    split
    · next hk =>
      rw [if_pos hk] at h
      rw [hk, Option.some.inj h]
    · next hk =>
      rw [if_neg hk] at h
      rw [ih h]

/-! ## Filters -/

/-- A filter does not see a value that it leaves out take the place of another such value. -/
theorem filter_insert {p : β → Bool} {k : α} {b : β} {m : Assoc α β} (hb : p b = false)
    (hold : ∀ c, (k, c) ∈ m → p c = false) :
    ((m.insert k b).map Prod.snd).filter p = (m.map Prod.snd).filter p := by
  induction m with
  | nil => simp [Assoc.insert, hb]
  | cons e rest ih =>
    obtain ⟨l, c⟩ := e
    simp only [Assoc.insert]
    split
    · next h =>
      subst h
      simp [hb, hold c (by simp)]
    · simp [List.filter_cons, ih fun c hc ↦ hold c (List.mem_cons_of_mem _ hc)]

theorem filter_erase {p : β → Bool} {k : α} {m : Assoc α β}
    (hold : ∀ c, (k, c) ∈ m → p c = false) :
    ((Assoc.erase k m).map Prod.snd).filter p = (m.map Prod.snd).filter p := by
  induction m with
  | nil => rfl
  | cons e rest ih =>
    obtain ⟨l, c⟩ := e
    have hrest := ih fun c hc ↦ hold c (List.mem_cons_of_mem _ hc)
    simp only [Assoc.erase]
    split
    · next h =>
      subst h
      simp [hrest, hold c (by simp)]
    · simp [List.filter_cons, hrest]

end StageRelay.Assoc
