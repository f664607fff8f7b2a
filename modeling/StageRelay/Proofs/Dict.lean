import Mathlib.Data.List.Perm.Basic
import StageRelay.Dict

/-!
# Dictionaries in order

The entries of a dictionary stand in strictly increasing order of their keys, and every operation
keeps them so. Then each entry is the one that `find?` finds, and `erase` forgets its key.
-/

namespace StageRelay.Dict

variable {α : Type u}

/-- The keys increase strictly. -/
def Sorted (d : Dict α) : Prop :=
  d.Pairwise fun e f ↦ e.1 < f.1

theorem sorted_nil : Sorted ([] : Dict α) := List.Pairwise.nil

theorem mem_of_mem_insert {k : String} {a : α} {d : Dict α} {e : String × α}
    (h : e ∈ d.insert k a) : e = (k, a) ∨ e ∈ d := by
  induction d with
  | nil => exact .inl (List.mem_singleton.1 h)
  | cons f rest ih =>
    simp only [insert] at h
    split at h
    · simpa using h
    · split at h
      · rcases List.mem_cons.1 h with h | h
        · exact .inl h
        · exact .inr (List.mem_cons_of_mem f h)
      · rcases List.mem_cons.1 h with h | h
        · exact .inr (by simp [h])
        · exact (ih h).imp_right (List.mem_cons_of_mem f)

theorem mem_insert_self (k : String) (a : α) (d : Dict α) : (k, a) ∈ d.insert k a := by
  induction d with
  | nil => exact List.mem_singleton.2 rfl
  | cons f rest ih =>
    simp only [insert]
    split
    · exact List.mem_cons_self
    · split
      · exact List.mem_cons_self
      · exact List.mem_cons_of_mem f ih

/-- What has another key stays. -/
theorem mem_insert_of_ne {k : String} {a : α} {d : Dict α} {e : String × α} (he : e ∈ d)
    (hne : e.1 ≠ k) : e ∈ d.insert k a := by
  induction d with
  | nil => cases he
  | cons f rest ih =>
    simp only [insert]
    split
    · exact List.mem_cons_of_mem _ he
    · split
      · next hk =>
        rcases List.mem_cons.1 he with rfl | he
        · exact absurd hk.symm hne
        · exact List.mem_cons_of_mem _ he
      · rcases List.mem_cons.1 he with rfl | he
        · exact List.mem_cons_self
        · exact List.mem_cons_of_mem f (ih he)

/-- Of two values stored for a key the last one stays. -/
theorem insert_insert (k : String) (a b : α) (d : Dict α) :
    (d.insert k a).insert k b = d.insert k b := by
  induction d with
  | nil => simp [Dict.insert]
  | cons e rest ih =>
    obtain ⟨l, c⟩ := e
    by_cases hlt : k < l
    · simp [Dict.insert, hlt]
    · by_cases hk : k = l
      · subst hk
        simp [Dict.insert]
      · simp [Dict.insert, hlt, hk, ih]

theorem Sorted.insert {d : Dict α} (hd : d.Sorted) (k : String) (a : α) :
    (d.insert k a).Sorted := by
  induction d with
  | nil => simp [Dict.insert, Sorted]
  | cons e rest ih =>
    obtain ⟨he, hrest⟩ := List.pairwise_cons.1 hd
    simp only [Dict.insert]
    split
    · next hlt =>
      refine List.pairwise_cons.2 ⟨?_, hd⟩
      intro f hf
      rcases List.mem_cons.1 hf with rfl | hf
      · exact hlt
      · exact String.lt_trans hlt (he f hf)
    · split
      · next heq => exact List.pairwise_cons.2 ⟨fun f hf ↦ heq ▸ he f hf, hrest⟩
      · next hlt hne =>
        refine List.pairwise_cons.2 ⟨?_, ih hrest⟩
        intro f hf
        rcases mem_of_mem_insert hf with rfl | hf
        · exact Std.lt_of_le_of_ne (String.not_lt.1 hlt) (Ne.symm hne)
        · exact he f hf

theorem erase_sublist (k : String) (d : Dict α) : List.Sublist (Dict.erase k d) d := by
  induction d with
  | nil => exact List.Sublist.refl []
  | cons e rest ih =>
    simp only [Dict.erase]
    split
    · exact List.sublist_cons_self e rest
    · exact ih.cons_cons e

theorem Sorted.erase {d : Dict α} (hd : d.Sorted) (k : String) : Sorted (Dict.erase k d) :=
  List.Pairwise.sublist (erase_sublist k d) hd

/-- In order, an entry is found exactly if it is there. -/
theorem Sorted.find?_eq_some_iff {d : Dict α} (hd : d.Sorted) {k : String} {a : α} :
    d.find? k = some a ↔ (k, a) ∈ d := by
  induction d with
  | nil => simp
  | cons e rest ih =>
    obtain ⟨he, hrest⟩ := List.pairwise_cons.1 hd
    obtain ⟨k', a'⟩ := e
    by_cases hk : k = k'
    · subst hk
      have hnot : (k, a) ∉ rest := fun h ↦ String.lt_irrefl k (he _ h)
      simp [find?, hnot, eq_comm]
    · simp [find?, hk, ih hrest]

@[simp] theorem Sorted.find?_erase {d : Dict α} (hd : d.Sorted) (k k' : String) :
    (Dict.erase k' d).find? k = if k = k' then none else d.find? k := by
  induction d with
  | nil => simp [Dict.erase]
  | cons e rest ih =>
    obtain ⟨he, hrest⟩ := List.pairwise_cons.1 hd
    have hrest : Sorted rest := hrest
    obtain ⟨l, a⟩ := e
    simp only [Dict.erase]
    split
    · next hl =>
      subst hl
      split
      · next hk =>
        subst hk
        rw [Option.eq_none_iff_forall_ne_some]
        intro b hb
        exact String.lt_irrefl k (he _ (hrest.find?_eq_some_iff.1 hb))
      · next hk => simp [find?, hk]
    · next hl =>
      simp only [find?, ih hrest]
      by_cases hk : k = l
      · simp [hk, Ne.symm hl]
      · simp [hk]

theorem Sorted.filter {d : Dict α} (hd : d.Sorted) (p : String × α → Bool) :
    Sorted (List.filter p d) :=
  List.Pairwise.filter p hd

/-- Of the entries that are kept, the one with a key is the one that was there before. -/
theorem Sorted.find?_filter {d : Dict α} (hd : d.Sorted) (p : String × α → Bool) (k : String) :
    find? k (List.filter p d) = (d.find? k).filter fun a ↦ p (k, a) := by
  ext a
  rw [(hd.filter p).find?_eq_some_iff, List.mem_filter, Option.filter_eq_some_iff,
    hd.find?_eq_some_iff]

/-- Keys are kept or dropped with all their values. -/
theorem find?_filter_key (d : Dict α) (p : String → Bool) (k : String) :
    find? k (d.filter fun e ↦ p e.1) = if p k then d.find? k else none := by
  induction d with
  | nil => simp
  | cons e rest ih =>
    obtain ⟨l, a⟩ := e
    by_cases hl : p l
    · rw [List.filter_cons_of_pos (by simpa using hl), find?, find?, ih]
      by_cases hk : k = l
      · simp [hk, hl]
      · simp [hk]
    · rw [List.filter_cons_of_neg (by simpa using hl), ih, find?]
      by_cases hk : k = l
      · simp [hk, hl]
      · simp [hk]

theorem mem_of_find?_eq_some {d : Dict α} {k : String} {a : α} (h : d.find? k = some a) :
    (k, a) ∈ d := by
  induction d with
  | nil => cases h
  | cons e rest ih =>
    obtain ⟨l, b⟩ := e
    simp only [find?] at h
    split at h
    · next hk =>
      subst hk
      simp [Option.some.inj h]
    · exact List.mem_cons_of_mem _ (ih h)

/-- In order, dictionaries with the same entries are the same. -/
theorem Sorted.ext {d d' : Dict α} (hd : d.Sorted) (hd' : d'.Sorted)
    (h : ∀ k, d.find? k = d'.find? k) : d = d' := by
  have hne {e f : String × α} (hlt : e.1 < f.1) : e ≠ f := by
    rintro rfl
    exact String.lt_irrefl e.1 hlt
  have hmem (e : String × α) : e ∈ d ↔ e ∈ d' := by
    obtain ⟨k, a⟩ := e
    rw [← hd.find?_eq_some_iff, ← hd'.find?_eq_some_iff, h]
  refine List.Perm.eq_of_pairwise ?_ hd hd'
    ((List.perm_ext_iff_of_nodup (hd.imp hne) (hd'.imp hne)).2 hmem)
  intro e f _ _ hef hfe
  exact absurd (String.lt_trans hef hfe) (String.lt_irrefl e.1)

/-! ## Lists of entries -/

theorem sorted_ofEntries (es : List (String × α)) : (ofEntries es).Sorted := by
  have hfoldl (d : Dict α) (hd : d.Sorted) :
      Sorted (es.foldl (fun d e ↦ insert e.1 e.2 d) d) := by
    induction es generalizing d with
    | nil => exact hd
    | cons e es ih => exact ih _ (hd.insert e.1 e.2)
  exact hfoldl [] sorted_nil

theorem mem_of_mem_foldl_insert {es : List (String × α)} {d : Dict α} {e : String × α}
    (h : e ∈ es.foldl (fun d e ↦ insert e.1 e.2 d) d) : e ∈ d ∨ e ∈ es := by
  induction es generalizing d with
  | nil => exact .inl h
  | cons f es ih =>
    rcases ih h with h | h
    · rcases mem_of_mem_insert h with rfl | h
      · exact .inr (by simp)
      · exact .inl h
    · exact .inr (List.mem_cons_of_mem f h)

theorem mem_of_mem_ofEntries {es : List (String × α)} {e : String × α} (h : e ∈ ofEntries es) :
    e ∈ es := by
  simpa using mem_of_mem_foldl_insert h

theorem isSome_find?_foldl_insert {es : List (String × α)} {d : Dict α} {k : String}
    (h : (d.find? k).isSome ∨ ∃ a, (k, a) ∈ es) :
    (find? k (es.foldl (fun d e ↦ insert e.1 e.2 d) d)).isSome := by
  induction es generalizing d with
  | nil => simpa using h
  | cons f es ih =>
    apply ih
    rw [find?_insert]
    rcases h with h | ⟨a, h⟩
    · exact .inl (by split <;> simp [h])
    · rcases List.mem_cons.1 h with rfl | h
      · exact .inl (by simp)
      · exact .inr ⟨a, h⟩

theorem isSome_find?_ofEntries {es : List (String × α)} {k : String} {a : α} (h : (k, a) ∈ es) :
    ((ofEntries es).find? k).isSome :=
  isSome_find?_foldl_insert (.inr ⟨a, h⟩)

/-- Where no key has two values, an entry is found exactly if it is listed. -/
theorem find?_ofEntries_eq_some_iff {es : List (String × α)}
    (hes : ∀ k a b, (k, a) ∈ es → (k, b) ∈ es → a = b) {k : String} {a : α} :
    (ofEntries es).find? k = some a ↔ (k, a) ∈ es := by
  have hmem {b : α} (hb : (ofEntries es).find? k = some b) : (k, b) ∈ es :=
    mem_of_mem_ofEntries (mem_of_find?_eq_some hb)
  refine ⟨hmem, fun h ↦ ?_⟩
  obtain ⟨b, hb⟩ := Option.isSome_iff_exists.1 (isSome_find?_ofEntries h)
  rw [hb, hes k a b h (hmem hb)]

/-- A dictionary is the map of its own entries. -/
theorem Sorted.ofEntries_eq {d : Dict α} (hd : d.Sorted) : ofEntries d = d := by
  refine (sorted_ofEntries d).ext hd fun k ↦ Option.ext fun a ↦ ?_
  rw [find?_ofEntries_eq_some_iff, hd.find?_eq_some_iff]
  intro k a b ha hb
  rw [← hd.find?_eq_some_iff] at ha hb
  exact Option.some.inj (ha.symm.trans hb)

end StageRelay.Dict
