import StageRelay.Debounce
import StageRelay.Proofs.Dict
import StageRelay.Proofs.Store

/-!
# Stages that wait

A change of a stage replaces what waited under its key, and a drain parts the stages that wait into
those that leave and those that stay. So no stage is forgotten, although its payload may be another
one.
-/

namespace StageRelay

namespace Debouncer

variable {d : Debouncer} {now : Nat} {s t : Stage}

/-- The stages that wait. -/
def stages (d : Debouncer) : List Stage :=
  d.waiting.map fun e ↦ e.2.stage

/-- Every stage waits under its own key. -/
def Keyed (d : Debouncer) : Prop :=
  ∀ e ∈ d.waiting, e.1 = e.2.stage.key

theorem Keyed.update (h : d.Keyed) : (d.update now s).Keyed := by
  intro e he
  rcases Dict.mem_of_mem_insert he with rfl | he
  · rfl
  · exact h e he

theorem Keyed.drain (h : d.Keyed) : (d.drain now).2.Keyed :=
  fun e he ↦ h e (List.mem_filter.1 he).1

theorem mem_stages_update_self : s ∈ (d.update now s).stages :=
  List.mem_map.2 ⟨_, Dict.mem_insert_self .., rfl⟩

theorem mem_of_mem_stages_update (h : t ∈ (d.update now s).stages) : t = s ∨ t ∈ d.stages := by
  obtain ⟨e, he, rfl⟩ := List.mem_map.1 h
  rcases Dict.mem_of_mem_insert he with rfl | he
  · exact .inl rfl
  · exact .inr (List.mem_map_of_mem he)

/-- A stage goes on to wait, perhaps with the payload of another change. -/
theorem Keyed.exists_mem_stages_update (h : d.Keyed) (ht : t ∈ d.stages) (hs : s.Plain)
    (htp : t.Plain) : ∃ u ∈ (d.update now s).stages, u.same t := by
  obtain ⟨e, he, rfl⟩ := List.mem_map.1 ht
  by_cases hkey : e.1 = s.key
  · refine ⟨s, mem_stages_update_self, hs.same_of_key htp ?_⟩
    rw [← hkey, h e he]
  · exact ⟨_, List.mem_map_of_mem (Dict.mem_insert_of_ne he hkey), Stage.same_refl _⟩

/-- A stage that waits either leaves or stays. -/
theorem mem_stages_iff_drain : t ∈ d.stages ↔ t ∈ (d.drain now).1 ∨ t ∈ (d.drain now).2.stages := by
  simp only [stages, drain, due, List.mem_map, List.mem_filter, ← exists_or]
  apply exists_congr
  intro e
  cases d.isDue now e.2 <;> simp

end Debouncer

end StageRelay
