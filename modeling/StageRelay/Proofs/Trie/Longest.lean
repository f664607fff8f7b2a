import StageRelay.Proofs.Trie.Find

/-!
# The longest key that begins a text

`longest` finds, of the keys that a byte string starts with, the longest one with its value, and
nothing exactly if there is no such key.
-/

namespace StageRelay

/-- The entry with the longest key that begins `text`, of the entries that `find` knows. -/
def IsLongest {α : Type u} (find : Bytes → Option α) (text : Bytes) : Option (Bytes × α) → Prop
  | some (key, a) =>
    key <+: text ∧ find key = some a ∧
      ∀ key' a', key' <+: text → find key' = some a' → key'.length ≤ key.length
  | none => ∀ key, key <+: text → find key = none

/-- Only the keys that begin the text matter. -/
theorem IsLongest.congr {α : Type u} {find find' : Bytes → Option α} {text : Bytes}
    {best : Option (Bytes × α)} (h : IsLongest find text best)
    (hf : ∀ key, key <+: text → find' key = find key) : IsLongest find' text best := by
  cases best with
  | some e =>
    obtain ⟨hk, ha, hmax⟩ := h
    exact ⟨hk, (hf _ hk).trans ha, fun key a hp h ↦ hmax key a hp ((hf key hp).symm.trans h)⟩
  | none => exact fun key hp ↦ (hf key hp).trans (h key hp)

/-- There is one longest key, as the keys that begin a text begin each other. -/
theorem IsLongest.unique {α : Type u} {find : Bytes → Option α} {text : Bytes}
    {best best' : Option (Bytes × α)} (h : IsLongest find text best)
    (h' : IsLongest find text best') : best = best' := by
  cases best with
  | none =>
    cases best' with
    | none => rfl
    | some e =>
      have hnone := h e.1 h'.1
      rw [h'.2.1] at hnone
      cases hnone
  | some e =>
    obtain ⟨key, a⟩ := e
    obtain ⟨hp, ha, hmax⟩ := h
    cases best' with
    | none =>
      have hnone := h' key hp
      rw [ha] at hnone
      cases hnone
    | some e' =>
      obtain ⟨key', a'⟩ := e'
      obtain ⟨hp', ha', hmax'⟩ := h'
      have hle := List.prefix_of_prefix_length_le hp hp' (hmax' key a hp ha)
      obtain rfl := hle.eq_of_length_le (hmax key' a' hp' ha')
      rw [Option.some.inj (ha.symm.trans ha')]

namespace Forest

variable {α : Type u}

/-- The longest key of a tree goes along its edge, and as far as possible into what is below. -/
theorem isLongest_along {below : Forest α} {path : Bytes} {best : Option (Bytes × α)}
    (ih : IsLongest (at? none below) path best) (label : Bytes) (v : Option α) :
    IsLongest (along label v below) (label ++ path)
      (best.elim (v.map (label, ·)) fun e ↦ some (label ++ e.1, e.2)) := by
  cases best with
  | some e =>
    obtain ⟨k, a⟩ := e
    obtain ⟨hk, ha, hmax⟩ := ih
    refine ⟨(List.prefix_append_right_inj label).2 hk, by simpa using at?_eq_some ha, ?_⟩
    intro key' a' hp hf
    obtain ⟨rfl, -⟩ | ⟨rest, rfl, hr⟩ := along_eq_some_iff.1 hf
    · simp
    · have hle := hmax rest a' ((List.prefix_append_right_inj label).1 hp) hr
      simpa using hle
  | none =>
    have deeper {rest : Bytes} {a' : α} (hp : label ++ rest <+: label ++ path)
        (hr : at? none below rest = some a') : False := by
      rw [ih rest ((List.prefix_append_right_inj label).1 hp)] at hr
      cases hr
    cases v with
    | some a =>
      refine ⟨List.prefix_append label path, along_self label (some a) below, ?_⟩
      intro key' a' hp hf
      obtain ⟨rfl, -⟩ | ⟨rest, rfl, hr⟩ := along_eq_some_iff.1 hf
      · exact Nat.le_refl _
      · exact (deeper hp hr).elim
    | none =>
      intro key' hp
      rw [Option.eq_none_iff_forall_ne_some]
      intro a' hf
      obtain ⟨-, h⟩ | ⟨rest, rfl, hr⟩ := along_eq_some_iff.1 hf
      · cases h
      · exact deeper hp hr

/-- Keys that begin with one byte are as long as possible if what follows that byte is. -/
theorem isLongest_cons {f : Forest α} {b : UInt8} {path : Bytes} {find : Bytes → Option α}
    {best : Option (Bytes × α)} (ih : IsLongest find path best)
    (hf : ∀ key, f.find? b key = find key) :
    IsLongest (at? none f) (b :: path) (best.map fun e ↦ (b :: e.1, e.2)) := by
  cases best with
  | some e =>
    obtain ⟨k, a⟩ := e
    obtain ⟨hk, ha, hmax⟩ := ih
    refine ⟨List.cons_prefix_cons.2 ⟨rfl, hk⟩, (hf k).trans ha, ?_⟩
    intro key' a' hp hk'
    cases key' with
    | nil => simp
    | cons c key' =>
      obtain ⟨rfl, hp'⟩ := List.cons_prefix_cons.1 hp
      have hle := hmax key' a' hp' ((hf key').symm.trans hk')
      simpa using hle
  | none =>
    intro key' hp
    cases key' with
    | nil => rfl
    | cons c key' =>
      obtain ⟨rfl, hp'⟩ := List.cons_prefix_cons.1 hp
      exact (hf key').trans (ih key' hp')

theorem isLongest_longest {f : Forest α} (text : Bytes) :
    IsLongest (at? none f) text (f.longest text) := by
  induction f generalizing text with
  | nil => rintro (- | ⟨b, key⟩) - <;> rfl
  | node h label v below rest ihb ihr =>
    cases text with
    | nil =>
      intro key hp
      rw [List.prefix_nil.1 hp]
      rfl
    | cons b path =>
      simp only [longest]
      split
      · next hb =>
        subst hb
        have hfind (key : Bytes) :
            (node b label v below rest).find? b key = along label v below key := by
          rw [find?_node, if_pos rfl]
        obtain ⟨path, rfl⟩ | ⟨hs, hp⟩ := Bytes.strip_cases label path
        · have h := isLongest_cons (isLongest_along (ihb path) label v) hfind
          rw [Bytes.strip_append_self]
          cases hl : below.longest path with
          | some e => simpa [hl] using h
          | none => cases v <;> simpa [hl] using h
        · rw [hs]
          have hnone : IsLongest (along label v below) path none := by
            rintro key ⟨rest, rfl⟩
            exact along_eq_none (fun r hr ↦ hp (r ++ rest) (by simp [hr])) v below
          exact isLongest_cons hnone hfind
      · next hb =>
        refine (ihr (b :: path)).congr ?_
        intro key hp
        cases key with
        | nil => rfl
        | cons c key =>
          obtain ⟨rfl, -⟩ := List.cons_prefix_cons.1 hp
          rw [at?, find?_node, if_neg hb]
          rfl

end Forest

/-- The longest key of a trie that begins a text. -/
theorem Trie.isLongest_longest {α : Type u} (t : Trie α) (text : Bytes) :
    IsLongest t.find? text (t.longest text) := by
  have h := Forest.isLongest_along (Forest.isLongest_longest (f := t.forest) text) [] t.root
  have halong : IsLongest (Forest.along [] t.root t.forest) text (t.longest text) := by
    rw [longest]
    cases hl : t.forest.longest text <;> simpa [hl] using h
  refine halong.congr ?_
  intro key _
  simpa [t.find?_eq] using (Forest.along_append [] t.root t.forest key).symm

end StageRelay
