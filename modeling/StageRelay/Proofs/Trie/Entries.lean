import Mathlib.Data.List.Nodup
import StageRelay.Proofs.Trie.Find

/-!
# The entries of a trie

`toList` lists every key with its value, each key once, and `size` counts them.
-/

namespace StageRelay

namespace Forest

variable {α : Type u}

theorem mem_toList_iff {f : Forest α} (hf : f.Ordered) {key : Bytes} {a : α} :
    (key, a) ∈ f.toList ↔ at? none f key = some a := by
  induction f generalizing key a with
  | nil => cases key <;> simp [toList, at?]
  | node h label v below rest ihb ihr =>
    obtain ⟨ha, hb, hr⟩ := hf
    simp only [toList, List.mem_append, ihr hr, List.mem_map, Prod.mk.injEq, Prod.exists, ihb hb,
      Option.mem_toList, Option.map_eq_some_iff]
    cases key with
    | nil => simp [at?]
    | cons b key =>
      rw [at?, at?, find?_node]
      by_cases hbh : b = h
      · rw [if_pos hbh, hbh, find?_of_above hr ha, along_eq_some_iff]
        grind
      · rw [if_neg hbh]
        simp [Ne.symm hbh]

theorem mem_keys_iff {f : Forest α} (hf : f.Ordered) {key : Bytes} :
    key ∈ f.toList.map Prod.fst ↔ ∃ a, at? none f key = some a := by
  simp [mem_toList_iff hf]

/-- The empty key is not one of a forest. -/
theorem ne_nil_of_mem_keys {f : Forest α} (hf : f.Ordered) {key : Bytes}
    (h : key ∈ f.toList.map Prod.fst) : key ≠ [] := by
  rintro rfl
  obtain ⟨a, ha⟩ := (mem_keys_iff hf).1 h
  cases ha

/-- No key is listed twice. -/
theorem nodup_keys {f : Forest α} (hf : f.Ordered) : (f.toList.map Prod.fst).Nodup := by
  induction f with
  | nil => exact List.nodup_nil
  | node h label v below rest ihb ihr =>
    obtain ⟨ha, hb, hr⟩ := hf
    have hown : ((v.map ((h :: label : Bytes), ·)).toList.map Prod.fst).Nodup := by
      cases v <;> simp
    have hbelow : (below.toList.map fun e ↦ h :: label ++ e.1).Nodup := by
      simpa [List.map_map, Function.comp_def] using
        (ihb hb).map (List.append_right_injective (h :: label))
    have hrest : ∀ key ∈ rest.toList.map Prod.fst, ∀ path, key ≠ h :: path := by
      rintro key hk path rfl
      obtain ⟨a, hfind⟩ := (mem_keys_iff hr).1 hk
      rw [at?, find?_of_above hr ha] at hfind
      cases hfind
    rw [toList, List.map_append, List.map_append, List.map_map]
    refine List.nodup_append.2 ⟨List.nodup_append.2 ⟨hown, hbelow, ?_⟩, ihr hr, ?_⟩
    · intro key hk key' hk' heq
      obtain ⟨e, he, rfl⟩ := List.mem_map.1 hk'
      have hne := ne_nil_of_mem_keys hb (List.mem_map_of_mem he)
      cases v <;> simp_all
    · intro key hk key' hk' heq
      rcases List.mem_append.1 hk with hk | hk
      · cases v with
        | none => cases hk
        | some a => exact hrest key' hk' label (heq.symm.trans (by simpa using hk))
      · obtain ⟨e, -, rfl⟩ := List.mem_map.1 hk
        exact hrest key' hk' (label ++ e.1) heq.symm

/-- The listed keys are as many as `size` counts. -/
theorem length_toList (f : Forest α) : f.toList.length = f.size := by
  induction f with
  | nil => rfl
  | node h label v below rest ihb ihr => cases v <;> simp [toList, size, ihb, ihr]; omega

end Forest

namespace Trie

variable {α : Type u}

theorem mem_toList_iff {t : Trie α} (ht : t.Ordered) {key : Bytes} {a : α} :
    (key, a) ∈ t.toList ↔ t.find? key = some a := by
  rw [toList, List.mem_append, Forest.mem_toList_iff ht]
  cases key with
  | nil => simp [Forest.at?, find?]
  | cons b key => simp [Forest.at?, find?]

theorem nodup_keys {t : Trie α} (ht : t.Ordered) : (t.toList.map Prod.fst).Nodup := by
  rw [toList, List.map_append]
  refine List.nodup_append.2 ⟨?_, Forest.nodup_keys ht, ?_⟩
  · cases t.root <;> simp
  · intro key hroot key' hkey heq
    refine Forest.ne_nil_of_mem_keys ht hkey (heq.symm.trans ?_)
    cases h : t.root <;> simp_all

theorem length_toList (t : Trie α) : t.toList.length = t.size := by
  cases h : t.root <;> simp [toList, size, Forest.length_toList, h]; omega

theorem mem_keys_iff {t : Trie α} (ht : t.Ordered) {key : Bytes} :
    key ∈ t.toList.map Prod.fst ↔ (t.find? key).isSome := by
  simp [mem_toList_iff ht, Option.isSome_iff_exists]

/-- A trie has as many keys as any list that names each of them once. -/
theorem size_eq {t : Trie α} (ht : t.Ordered) {keys : List Bytes} (hnodup : keys.Nodup)
    (hkeys : ∀ key, key ∈ keys ↔ (t.find? key).isSome) : t.size = keys.length := by
  have hperm : (t.toList.map Prod.fst).Perm keys :=
    (List.perm_ext_iff_of_nodup (nodup_keys ht) hnodup).2
      fun key ↦ (mem_keys_iff ht).trans (hkeys key).symm
  rw [← t.length_toList, ← hperm.length_eq, List.length_map]

theorem size_insert {t : Trie α} (ht : t.Ordered) (key : Bytes) (a : α) :
    (t.insert key a).size = if (t.find? key).isNone then t.size + 1 else t.size := by
  have hins := insert_ordered ht key a
  split
  · next h =>
    rw [Option.isNone_iff_eq_none] at h
    have hnew : key ∉ t.toList.map Prod.fst := by simp [mem_keys_iff ht, h]
    rw [size_eq hins (List.nodup_cons.2 ⟨hnew, nodup_keys ht⟩) ?_]
    · simp [length_toList]
    · intro key'
      rw [List.mem_cons, mem_keys_iff ht, find?_insert ht]
      by_cases hk : key' = key <;> simp [hk]
  · next h =>
    rw [size_eq hins (nodup_keys ht) ?_]
    · simp [length_toList]
    · intro key'
      rw [mem_keys_iff ht, find?_insert ht]
      by_cases hk : key' = key
      · simpa [hk, Option.isSome_iff_ne_none] using h
      · simp [hk]

/-- Removing a key makes a trie smaller by one. -/
theorem size_erase {t : Trie α} (ht : t.Ordered) {key : Bytes} (h : (t.find? key).isSome) :
    (t.erase key).size + 1 = t.size := by
  have hmem := (mem_keys_iff ht).2 h
  rw [size_eq (erase_ordered ht key) ((nodup_keys ht).erase key) ?_]
  · have hpos := List.length_pos_of_mem hmem
    rw [List.length_erase_of_mem hmem]
    simp only [List.length_map, length_toList] at hpos ⊢
    omega
  · intro key'
    rw [(nodup_keys ht).mem_erase_iff, mem_keys_iff ht, find?_erase ht]
    by_cases hk : key' = key <;> simp [hk]

end Trie

end StageRelay
