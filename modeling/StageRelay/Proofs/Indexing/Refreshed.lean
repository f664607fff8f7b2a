import StageRelay.Proofs.Index.Content
import StageRelay.Proofs.Indexing.World

/-!
# Directories that were refreshed

What handlers do to a directory is told by two lists: of the stages whose indices they asked for, and
of the subjects that they brought up to date, for fixed objects. Neither the order in which that
happened nor how often shows in the directory.
-/

namespace StageRelay

/-! ## Which indices there are -/

namespace IndexDirectory

variable {d : IndexDirectory} {s t : Stage} {x y : CertificateIndex}

/-- Whether a stage has an index. -/
def Made : IndexDirectory → Stage → Prop
  | shared _, _ => True
  | perStage xs, s => (xs.find? s.key).isSome

@[simp] theorem together_refl (d : IndexDirectory) (s : Stage) : d.Together s s := by
  cases d with
  | shared x => trivial
  | perStage xs => exact rfl

theorem Together.symm (h : d.Together s t) : d.Together t s := by
  cases d with
  | shared x => trivial
  | perStage xs => exact Eq.symm h

theorem Together.trans {u : Stage} (h : d.Together s t) (h' : d.Together t u) :
    d.Together s u := by
  cases d with
  | shared x => trivial
  | perStage xs => exact Eq.trans h h'

@[simp] theorem made_set : (d.set s x).Made t ↔ d.Made t ∨ d.Together t s := by
  cases d with
  | shared y => exact iff_of_true trivial (.inl trivial)
  | perStage xs =>
    simp only [set, Made, Together, Dict.find?_insert]
    by_cases h : t.key = s.key <;> simp [h]

theorem set_set : (d.set s x).set s y = d.set s y := by
  cases d with
  | shared z => rfl
  | perStage xs => simp only [set, Dict.insert_insert]

theorem touch_set : (d.set s x).touch s = d.set s x := by
  rw [touch, set_set, get_set_of_together (together_refl _ s)]

@[simp] theorem touch_touch (d : IndexDirectory) (s : Stage) : (d.touch s).touch s = d.touch s :=
  touch_set

@[simp] theorem get_touch (d : IndexDirectory) (s t : Stage) : (d.touch s).get t = d.get t := by
  rw [touch]
  by_cases h : d.Together t s
  · rw [get_set_of_together h, h.get_eq]
  · rw [get_set_of_not_together h]

/-- Every index of a directory came about by operations on certificates. -/
def Reachable (d : IndexDirectory) : Prop :=
  ∀ s, ∃ ops, d.get s = CertificateIndex.after ops

theorem Reachable.coherent (h : d.Reachable) (s : Stage) : (d.get s).Coherent := by
  obtain ⟨ops, hops⟩ := h s
  exact hops ▸ CertificateIndex.coherent_after ops

theorem reachable_empty (perStage : Bool) : (empty perStage).Reachable := by
  intro s
  cases perStage <;> exact ⟨[], rfl⟩

/-- Two directories have indices for the same stages, and these are the same. -/
def Alike (d d' : IndexDirectory) : Prop :=
  ∀ s, (d.Made s ↔ d'.Made s) ∧ (d.get s).Alike (d'.get s)

end IndexDirectory

namespace Indexing

/-! ## Refreshing -/

/-- From `d` to `d'` the indices of the stages `ss` were asked for and the subjects `us` brought up
to date, and nothing else happened. -/
structure Refreshed (st : Store) (ss : List Stage) (us : List Subject) (d d' : IndexDirectory) :
    Prop where
  together : ∀ s t, d'.Together s t ↔ d.Together s t
  made : ∀ t, d'.Made t ↔ d.Made t ∨ ∃ s ∈ ss, d.Together t s
  written : ∀ u ∈ us, ∀ t, d.Together t u.place.owner →
    (d'.get t).tracked.find? u.place = u.wanted? st
  kept : ∀ t k, (∀ u ∈ us, u.place = k → ¬ d.Together t k.owner) →
    (d'.get t).tracked.find? k = (d.get t).tracked.find? k
  coherent : ∀ t, (d.get t).Coherent → (d'.get t).Coherent

namespace Refreshed

variable {st : Store} {ss ss' : List Stage} {us us' : List Subject} {d d' d'' : IndexDirectory}
  {s : Stage}

theorem refl (st : Store) (d : IndexDirectory) : Refreshed st [] [] d d where
  together _ _ := Iff.rfl
  made _ := by simp
  written _ h := by cases h
  kept _ _ _ := rfl
  coherent _ := id

theorem touch (st : Store) (d : IndexDirectory) (s : Stage) :
    Refreshed st [s] [] d (d.touch s) where
  together _ _ := IndexDirectory.together_set
  made t := by simp [IndexDirectory.touch]
  written _ h := by cases h
  kept t k _ := by rw [IndexDirectory.get_touch]
  coherent t h := by rwa [IndexDirectory.get_touch]

/-- The index of a stage is replaced by one that differs at a subject of the stage. -/
theorem set {u : Subject} {x : CertificateIndex} (howner : u.place.owner.same s)
    (hasked : d.touch s = d)
    (hx : ∀ k, x.tracked.find? k =
      if k = u.place then u.wanted? st else (d.get s).tracked.find? k)
    (hc : (d.get s).Coherent → x.Coherent) : Refreshed st [] [u] d (d.set s x) where
  together _ _ := IndexDirectory.together_set
  made t := by
    rw [IndexDirectory.made_set]
    constructor
    · rintro (h | h)
      · exact .inl h
      · rw [← hasked, IndexDirectory.touch, IndexDirectory.made_set]
        exact .inl (.inr h)
    · rintro (h | ⟨_, h, -⟩)
      · exact .inl h
      · cases h
  written v hv t ht := by
    obtain rfl := List.mem_singleton.1 hv
    rw [IndexDirectory.get_set_of_together (ht.trans (d.together_of_same howner)), hx, if_pos rfl]
  kept t k hk := by
    by_cases ht : d.Together t s
    · rw [IndexDirectory.get_set_of_together ht, hx, if_neg, ht.get_eq]
      rintro rfl
      exact hk u (List.mem_singleton.2 rfl) rfl (ht.trans (d.together_of_same howner).symm)
    · rw [IndexDirectory.get_set_of_not_together ht]
  coherent t h := by
    by_cases ht : d.Together t s
    · rw [IndexDirectory.get_set_of_together ht]
      exact hc (ht.get_eq ▸ h)
    · rwa [IndexDirectory.get_set_of_not_together ht]

theorem trans (h : Refreshed st ss us d d') (h' : Refreshed st ss' us' d' d'')
    (hus : ∀ u ∈ us, u.Unmarked) (hus' : ∀ u ∈ us', u.Unmarked) :
    Refreshed st (ss ++ ss') (us ++ us') d d'' where
  together s t := (h'.together s t).trans (h.together s t)
  made t := by
    simp only [h'.made, h.made, h.together, List.mem_append]
    grind
  written u hu t ht := by
    by_cases hlater : u ∈ us'
    · exact h'.written u hlater t ((h.together t _).2 ht)
    · have hu := (List.mem_append.1 hu).resolve_right hlater
      rw [h'.kept t u.place, h.written u hu t ht]
      intro v hv hplace
      exact absurd ((hus u hu).place_inj (hus' v hv) hplace.symm ▸ hv) hlater
  kept t k hk := by
    rw [h'.kept t k, h.kept t k]
    · exact fun u hu ↦ hk u (List.mem_append_left us' hu)
    · exact fun u hu hplace ↦
        mt (h.together t k.owner).1 (hk u (List.mem_append_right us hu) hplace)
  coherent t hc := h'.coherent t (h.coherent t hc)

/-- A subject that was brought up to date is up to date. -/
theorem lookup?_of_mem (h : Refreshed st ss us d d') {u : Subject} (hu : u ∈ us) :
    d'.lookup? u.place = u.wanted? st :=
  h.written u hu _ (IndexDirectory.together_refl d _)

/-- It only matters which indices were asked for and which subjects brought up to date. -/
theorem alike (h : Refreshed st ss us d d') (h' : Refreshed st ss' us' d d'')
    (hd : ∀ t, (d.get t).Coherent) (hss : ∀ s, s ∈ ss ↔ s ∈ ss') (hus : ∀ u, u ∈ us ↔ u ∈ us') :
    d'.Alike d'' := by
  intro t
  refine ⟨?_, (h.coherent t (hd t)).alike (h'.coherent t (hd t)) fun k ↦ ?_⟩
  · simp only [h.made, h'.made, hss]
  · by_cases hk : ∃ u ∈ us, u.place = k ∧ d.Together t k.owner
    · obtain ⟨u, hu, rfl, ht⟩ := hk
      rw [h.written u hu t ht, h'.written u ((hus u).1 hu) t ht]
    · rw [h.kept t k fun u hu hplace ht ↦ hk ⟨u, hu, hplace, ht⟩,
        h'.kept t k fun u hu hplace ht ↦ hk ⟨u, (hus u).2 hu, hplace, ht⟩]

end Refreshed

end Indexing

end StageRelay
