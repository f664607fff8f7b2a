import StageRelay.Proofs.Bytes
import StageRelay.Trie

/-!
# Tries as finite maps

The heads of the trees of a forest increase strictly, at every level, and every operation keeps it
so. In such a forest `find?` sees exactly what `insert` stored and `erase` left.
-/

namespace StageRelay

namespace Forest

variable {α : Type u}

/-! ## Order -/

/-- Every head is greater than `b`, as long as the heads increase. -/
def Above (b : UInt8) : Forest α → Prop
  | nil => True
  | node h _ _ _ _ => b < h

/-- The heads increase strictly along the trees, at every level. -/
def Ordered : Forest α → Prop
  | nil => True
  | node h _ _ below rest => rest.Above h ∧ below.Ordered ∧ rest.Ordered

theorem Above.trans {f : Forest α} {b c : UInt8} (h : f.Above c) (hbc : b < c) : f.Above b := by
  cases f with
  | nil => trivial
  | node => exact UInt8.lt_trans hbc h

theorem leaf_ordered (h : UInt8) (label : Bytes) (a : α) : (leaf h label a).Ordered := by
  simp [leaf, Ordered, Above]

theorem fork_ordered {h₁ h₂ : UInt8} {l₁ l₂ : Bytes} {v₁ : Option α} {below₁ : Forest α} {a₂ : α}
    (hne : h₁ ≠ h₂) (hb : below₁.Ordered) : (fork h₁ l₁ v₁ below₁ h₂ l₂ a₂).Ordered := by
  unfold fork
  split
  · next hlt => exact ⟨hlt, hb, leaf_ordered h₂ l₂ a₂⟩
  · next hlt =>
    have hlt' : h₂ < h₁ := by grind
    exact ⟨hlt', trivial, trivial, hb, trivial⟩

/-! ## Values along a path -/

@[simp] theorem find?_nil (b : UInt8) (key : Bytes) : (nil : Forest α).find? b key = none := rfl

/-- The value at the end of a path into a tree: its own one, or one from the trees below it. -/
def at? (v : Option α) (below : Forest α) : Bytes → Option α
  | [] => v
  | b :: key => below.find? b key

/-- The value at the end of a path along the edge of a tree. -/
def along (label : Bytes) (v : Option α) (below : Forest α) (path : Bytes) : Option α :=
  (Bytes.strip label path).bind (at? v below)

@[simp] theorem along_append (label : Bytes) (v : Option α) (below : Forest α) (rest : Bytes) :
    along label v below (label ++ rest) = at? v below rest := by
  simp [along]

@[simp] theorem along_self (label : Bytes) (v : Option α) (below : Forest α) :
    along label v below label = v := by
  simpa [at?] using along_append label v below []

/-- A longer edge goes on where a part of it ends. -/
theorem along_append_append (label label' : Bytes) (v : Option α) (below : Forest α)
    (rest : Bytes) :
    along (label ++ label') v below (label ++ rest) = along label' v below rest := by
  simp [along, Bytes.strip_append]

theorem along_cons (c : UInt8) (label : Bytes) (v : Option α) (below : Forest α) (b : UInt8)
    (key : Bytes) :
    along (c :: label) v below (b :: key) = if b = c then along label v below key else none := by
  by_cases h : b = c
  · simp [along, Bytes.strip, h]
  · simp [along, Bytes.strip, h, Ne.symm h]

@[simp] theorem along_nil_cons (label : Bytes) (c : UInt8) (v : Option α) (below : Forest α) :
    along (c :: label) v below [] = none := rfl

theorem along_eq_none {label path : Bytes} (h : ∀ rest, path ≠ label ++ rest) (v : Option α)
    (below : Forest α) : along label v below path = none := by
  obtain ⟨rest, rfl⟩ | ⟨hs, -⟩ := Bytes.strip_cases label path
  · exact absurd rfl (h rest)
  · rw [along, hs, Option.bind_none]

/-- A value that is not at the end of the edge itself comes from the trees below it. -/
theorem at?_eq_some {v : Option α} {below : Forest α} {key : Bytes} {a : α}
    (h : at? none below key = some a) : at? v below key = some a := by
  cases key with
  | nil => simp [at?] at h
  | cons => exact h

/-- A key along an edge either ends with it or goes on in the trees below. -/
theorem along_eq_some_iff {label path : Bytes} {v : Option α} {below : Forest α} {a : α} :
    along label v below path = some a ↔
      path = label ∧ v = some a ∨ ∃ rest, path = label ++ rest ∧ at? none below rest = some a := by
  constructor
  · intro h
    obtain ⟨rest, rfl⟩ | ⟨-, hp⟩ := Bytes.strip_cases label path
    · rw [along_append] at h
      cases rest with
      | nil => exact .inl ⟨List.append_nil label, h⟩
      | cons b rest => exact .inr ⟨b :: rest, rfl, h⟩
    · rw [along_eq_none hp] at h
      cases h
  · rintro (⟨rfl, rfl⟩ | ⟨rest, rfl, h⟩)
    · exact along_self path (some a) below
    · rw [along_append]
      exact at?_eq_some h

theorem find?_node (h : UInt8) (label : Bytes) (v : Option α) (below rest : Forest α) (b : UInt8)
    (key : Bytes) : (node h label v below rest).find? b key =
      if b = h then along label v below key else rest.find? b key := by
  simp only [find?, along]
  split
  · rcases Bytes.strip label key with - | (- | ⟨c, key'⟩) <;> rfl
  · rfl

/-- A tree without others below it holds one key. -/
theorem along_some_nil (label : Bytes) (a : α) (path : Bytes) :
    along label (some a) .nil path = if path = label then some a else none := by
  obtain ⟨rest, rfl⟩ | ⟨-, h⟩ := Bytes.strip_cases label path
  · cases rest <;> simp [at?]
  · rw [along_eq_none h, if_neg (by simpa using h [])]

theorem find?_leaf (h : UInt8) (label : Bytes) (a : α) (b : UInt8) (key : Bytes) :
    (leaf h label a).find? b key = if b = h ∧ key = label then some a else none := by
  rw [leaf, find?_node, along_some_nil]
  by_cases hb : b = h <;> simp [hb]

/-- A head below all others leads nowhere. -/
theorem find?_of_above {f : Forest α} {b : UInt8} (hf : f.Ordered) (h : f.Above b) (key : Bytes) :
    f.find? b key = none := by
  induction f with
  | nil => rfl
  | node c label v below rest _ ihr =>
    rw [find?_node, if_neg (by rintro rfl; exact UInt8.lt_irrefl _ h)]
    exact ihr hf.2.2 (hf.1.trans h)

theorem find?_fork {h₁ h₂ : UInt8} (hne : h₁ ≠ h₂) (l₁ l₂ : Bytes) (v₁ : Option α)
    (below₁ : Forest α) (a₂ : α) (b : UInt8) (key : Bytes) :
    (fork h₁ l₁ v₁ below₁ h₂ l₂ a₂).find? b key =
      if b = h₂ ∧ key = l₂ then some a₂
      else if b = h₁ then along l₁ v₁ below₁ key else none := by
  unfold fork
  split
  · rw [find?_node, find?_leaf]
    by_cases hb : b = h₁
    · simp [hb, hne]
    · simp [hb]
  · rw [find?_node, find?_node, along_some_nil]
    by_cases hb : b = h₂
    · simp [hb, Ne.symm hne]
    · simp [hb]

/-! ## Insertion -/

theorem insert_above {f : Forest α} {b c : UInt8} (h : f.Above c) (hcb : c < b) (a : α)
    (key : Bytes) : (f.insert a b key).Above c := by
  cases f with
  | nil => exact hcb
  | node d label v below rest =>
    simp only [insert]
    split
    · exact hcb
    · split
      · exact h
      · split <;> exact h

theorem insert_ordered {f : Forest α} (hf : f.Ordered) (a : α) (b : UInt8) (key : Bytes) :
    (f.insert a b key).Ordered := by
  induction f generalizing b key with
  | nil => exact leaf_ordered b key a
  | node h label v below rest ihb ihr =>
    obtain ⟨ha, hb, hr⟩ := hf
    simp only [insert]
    split
    · next hlt => exact ⟨hlt, trivial, ha, hb, hr⟩
    · split
      · next hlt => exact ⟨insert_above ha hlt a key, hb, ihr hr b key⟩
      · split
        · exact ⟨ha, hb, hr⟩
        · exact ⟨ha, ihb hb _ _, hr⟩
        · exact ⟨ha, ⟨trivial, hb, trivial⟩, hr⟩
        · next hs =>
          have hne := (Bytes.split_spec hs).2.2 _ _ _ _ rfl rfl
          exact ⟨ha, fork_ordered hne hb, hr⟩

/-! Each shape of a split stores the new key along the edge and keeps every other one. -/

theorem along_value (label : Bytes) (v : Option α) (below : Forest α) (a : α) (path : Bytes) :
    along label (some a) below path = if path = label then some a else along label v below path := by
  obtain ⟨rest, rfl⟩ | ⟨-, h⟩ := Bytes.strip_cases label path
  · cases rest <;> simp [at?]
  · rw [along_eq_none h, along_eq_none h, if_neg (by simpa using h [])]

theorem along_below {below below' : Forest α} {c : UInt8} {key : Bytes} {a : α}
    (hb : ∀ b' key', below'.find? b' key' =
      if b' = c ∧ key' = key then some a else below.find? b' key')
    (label : Bytes) (v : Option α) (path : Bytes) :
    along label v below' path =
      if path = label ++ c :: key then some a else along label v below path := by
  obtain ⟨rest, rfl⟩ | ⟨-, h⟩ := Bytes.strip_cases label path
  · cases rest with
    | nil => simp
    | cons b' key' => simp [at?, hb]
  · rw [along_eq_none h, along_eq_none h, if_neg (h _)]

theorem along_stop (common : Bytes) (c : UInt8) (label : Bytes) (v : Option α) (below : Forest α)
    (a : α) (path : Bytes) :
    along common (some a) (.node c label v below .nil) path =
      if path = common then some a else along (common ++ c :: label) v below path := by
  obtain ⟨rest, rfl⟩ | ⟨-, h⟩ := Bytes.strip_cases common path
  · rw [along_append_append, along_append]
    cases rest with
    | nil => simp [at?]
    | cons b key => simp [at?, find?_node, along_cons]
  · rw [along_eq_none h, along_eq_none (by simpa using fun rest ↦ h (c :: (label ++ rest))),
      if_neg (by simpa using h [])]

theorem along_fork {c d : UInt8} (hcd : c ≠ d) (common label : Bytes) (v : Option α)
    (below : Forest α) (key : Bytes) (a : α) (path : Bytes) :
    along common none (fork c label v below d key a) path =
      if path = common ++ d :: key then some a else along (common ++ c :: label) v below path := by
  obtain ⟨rest, rfl⟩ | ⟨-, h⟩ := Bytes.strip_cases common path
  · rw [along_append_append, along_append]
    cases rest with
    | nil => simp [at?]
    | cons b key' => simp [at?, find?_fork hcd, along_cons]
  · rw [along_eq_none h, along_eq_none (by simpa using fun rest ↦ h (c :: (label ++ rest))),
      if_neg (h _)]

theorem find?_insert {f : Forest α} (hf : f.Ordered) (a : α) (b : UInt8) (key : Bytes)
    (b' : UInt8) (key' : Bytes) : (f.insert a b key).find? b' key' =
      if b' = b ∧ key' = key then some a else f.find? b' key' := by
  induction f generalizing b key b' key' with
  | nil => simp [insert, find?_leaf]
  | node h label v below rest ihb ihr =>
    have hnode := hf
    obtain ⟨ha, hb, hr⟩ := hf
    simp only [insert]
    split
    · next hlt =>
      rw [find?_node b, along_some_nil]
      by_cases hbb : b' = b
      · simp [hbb, find?_of_above hnode hlt]
      · simp [hbb]
    · split
      · next hlt =>
        rw [find?_node, find?_node, ihr hr]
        by_cases hbh : b' = h
        · have hne : h ≠ b := by
            rintro rfl
            exact UInt8.lt_irrefl _ hlt
          simp [hbh, hne]
        · simp [hbh]
      · -- The key goes along the edge of this tree.
        next h₁ h₂ =>
        obtain rfl : b = h := by grind
        have tree (l : Bytes) (w : Option α) (g : Forest α)
            (hw : along l w g key' = if key' = key then some a else along label v below key') :
            (node b l w g rest).find? b' key' = if b' = b ∧ key' = key then some a
              else (node b label v below rest).find? b' key' := by
          rw [find?_node, find?_node, hw]
          by_cases hbb : b' = b <;> simp [hbb]
        split
        · next hs =>
          obtain ⟨rfl, hk, -⟩ := Bytes.split_spec hs
          rw [List.append_nil] at hk tree ⊢
          subst hk
          exact tree _ _ _ (along_value _ v below a key')
        · next c key₂ hs =>
          obtain ⟨rfl, rfl, -⟩ := Bytes.split_spec hs
          rw [List.append_nil] at tree ⊢
          exact tree _ _ _ (along_below (ihb hb c key₂) _ v key')
        · next common c label₂ hs =>
          obtain ⟨rfl, rfl, -⟩ := Bytes.split_spec hs
          rw [List.append_nil] at tree ⊢
          exact tree _ _ _ (along_stop _ c label₂ v below a key')
        · next common c label₂ d key₂ hs =>
          obtain ⟨rfl, rfl, hne⟩ := Bytes.split_spec hs
          exact tree _ _ _ (along_fork (hne c d label₂ key₂ rfl rfl) _ label₂ v below key₂ a key')

/-! ## Removal -/

theorem join_above {rest : Forest α} {c h : UInt8} (hr : rest.Above h) (hch : c < h)
    (label : Bytes) (v : Option α) (below : Forest α) : (join h label v below rest).Above c := by
  unfold join
  split
  · exact hr.trans hch
  · exact hch
  · exact hch

theorem join_ordered {below rest : Forest α} {h : UInt8} (ha : rest.Above h) (hb : below.Ordered)
    (hr : rest.Ordered) (label : Bytes) (v : Option α) : (join h label v below rest).Ordered := by
  unfold join
  split
  · exact hr
  · exact ⟨ha, hb.2.1, hr⟩
  · exact ⟨ha, hb, hr⟩

/-- Joining a tree with the only one below it, or leaving it out, changes no value. -/
theorem find?_join {rest : Forest α} {h : UInt8} (ha : rest.Above h) (hr : rest.Ordered)
    (label : Bytes) (v : Option α) (below : Forest α) (b : UInt8) (key : Bytes) :
    (join h label v below rest).find? b key = (node h label v below rest).find? b key := by
  unfold join
  split
  · rw [find?_node]
    split
    · next hb =>
      rw [hb, find?_of_above hr ha]
      obtain ⟨path, rfl⟩ | ⟨-, hk⟩ := Bytes.strip_cases label key
      · cases path <;> simp [at?]
      · rw [along_eq_none hk]
    · rfl
  · next rest' c label' v' below' =>
    rw [find?_node, find?_node]
    congr 1
    obtain ⟨path, rfl⟩ | ⟨-, hk⟩ := Bytes.strip_cases label key
    · rw [along_append_append, along_append]
      cases path with
      | nil => simp [at?]
      | cons d path => simp [at?, find?_node, along_cons]
    · rw [along_eq_none hk, along_eq_none (by simpa using fun rest ↦ hk (c :: (label' ++ rest)))]
  · rfl

theorem erase_above {f : Forest α} {b c : UInt8} (hf : f.Ordered) (h : f.Above c) (key : Bytes) :
    (f.erase b key).Above c := by
  cases f with
  | nil => trivial
  | node d label v below rest =>
    simp only [erase]
    split
    · split
      · exact h
      · exact join_above hf.1 h _ _ _
      · exact join_above hf.1 h _ _ _
    · exact h

theorem erase_ordered {f : Forest α} (hf : f.Ordered) (b : UInt8) (key : Bytes) :
    (f.erase b key).Ordered := by
  induction f generalizing b key with
  | nil => trivial
  | node h label v below rest ihb ihr =>
    obtain ⟨ha, hb, hr⟩ := hf
    simp only [erase]
    split
    · split
      · exact ⟨ha, hb, hr⟩
      · exact join_ordered ha hb hr _ _
      · exact join_ordered ha (ihb hb _ _) hr _ _
    · exact ⟨erase_above hr ha key, hb, ihr hr b key⟩

theorem find?_erase {f : Forest α} (hf : f.Ordered) (b : UInt8) (key : Bytes) (b' : UInt8)
    (key' : Bytes) : (f.erase b key).find? b' key' =
      if b' = b ∧ key' = key then none else f.find? b' key' := by
  induction f generalizing b key b' key' with
  | nil => simp [erase]
  | node h label v below rest ihb ihr =>
    obtain ⟨ha, hb, hr⟩ := hf
    simp only [erase]
    split
    · next hbh =>
      subst hbh
      obtain ⟨path, rfl⟩ | ⟨hs, hk⟩ := Bytes.strip_cases label key
      · have tree (w : Option α) (g : Forest α)
            (hw : along label w g key' =
              if key' = label ++ path then none else along label v below key') :
            (join b label w g rest).find? b' key' = if b' = b ∧ key' = label ++ path then none
              else (node b label v below rest).find? b' key' := by
          rw [find?_join ha hr, find?_node, find?_node, hw]
          by_cases hbb : b' = b <;> simp [hbb]
        rw [Bytes.strip_append_self]
        cases path with
        | nil =>
          refine tree none below ?_
          obtain ⟨rest, rfl⟩ | ⟨-, hk⟩ := Bytes.strip_cases label key'
          · cases rest <;> simp [at?]
          · rw [along_eq_none hk, along_eq_none hk, ite_self]
        | cons c key₂ =>
          refine tree v (below.erase c key₂) ?_
          obtain ⟨rest, rfl⟩ | ⟨-, hk⟩ := Bytes.strip_cases label key'
          · cases rest with
            | nil => simp
            | cons d key₃ => simp [at?, ihb hb]
          · rw [along_eq_none hk, along_eq_none hk, ite_self]
      · -- The key is not in the forest.
        simp only [hs]
        split
        · next h =>
          obtain ⟨rfl, rfl⟩ := h
          rw [find?_node, if_pos rfl, along_eq_none hk]
        · rfl
    · next hbh =>
      rw [find?_node, find?_node, ihr hr]
      by_cases hb' : b' = h
      · simp [hb', Ne.symm hbh]
      · simp [hb']

/-! ## Both in one walk -/

theorem put_eq {f : Forest α} (hf : f.Ordered) (a : α) (b : UInt8) (key : Bytes) :
    f.put a b key = (f.find? b key, f.insert a b key) := by
  induction f generalizing b key with
  | nil => rfl
  | node h label v below rest ihb ihr =>
    have hnode := hf
    obtain ⟨ha, hb, hr⟩ := hf
    simp only [put, insert]
    split
    · next hlt => rw [find?_of_above hnode hlt]
    · split
      · next hlt =>
        have hne : b ≠ h := by
          rintro rfl
          exact UInt8.lt_irrefl _ hlt
        rw [ihr hr, find?_node, if_neg hne]
      · -- The key goes along the edge of this tree.
        next h₁ h₂ =>
        obtain rfl : b = h := by grind
        rw [find?_node, if_pos rfl]
        split
        · next hs =>
          obtain ⟨rfl, rfl, -⟩ := Bytes.split_spec hs
          rw [List.append_nil, along_self]
        · next hs =>
          obtain ⟨rfl, rfl, -⟩ := Bytes.split_spec hs
          rw [List.append_nil, along_append, ihb hb]
          rfl
        · next hs =>
          obtain ⟨rfl, rfl, -⟩ := Bytes.split_spec hs
          rw [List.append_nil, along_eq_none (by simp)]
        · next c label₂ d key₂ hs =>
          obtain ⟨rfl, rfl, hne⟩ := Bytes.split_spec hs
          rw [along_eq_none]
          intro path h
          simp only [List.append_assoc, List.cons_append, List.append_cancel_left_eq,
            List.cons.injEq] at h
          exact hne c d label₂ key₂ rfl rfl h.1.symm

theorem take_eq (f : Forest α) (b : UInt8) (key : Bytes) :
    f.take b key = (f.find? b key).map (·, f.erase b key) := by
  induction f generalizing b key with
  | nil => rfl
  | node h label v below rest ihb ihr =>
    simp only [take, erase, find?]
    split
    · split
      · rfl
      · rfl
      · next c key' _ => rw [ihb, Option.map_map]; rfl
    · rw [ihr, Option.map_map]
      rfl

end Forest

namespace Trie

variable {α : Type u}

/-- The heads of a trie increase strictly, at every level. -/
def Ordered (t : Trie α) : Prop :=
  t.forest.Ordered

theorem empty_ordered : (empty : Trie α).Ordered := trivial

theorem insert_ordered {t : Trie α} (ht : t.Ordered) (key : Bytes) (a : α) :
    (t.insert key a).Ordered := by
  cases key with
  | nil => exact ht
  | cons b key => exact Forest.insert_ordered ht a b key

theorem erase_ordered {t : Trie α} (ht : t.Ordered) (key : Bytes) : (t.erase key).Ordered := by
  cases key with
  | nil => exact ht
  | cons b key => exact Forest.erase_ordered ht b key

theorem find?_eq (t : Trie α) (key : Bytes) : t.find? key = Forest.at? t.root t.forest key := by
  cases key <;> rfl

@[simp] theorem find?_empty (key : Bytes) : (empty : Trie α).find? key = none := by
  cases key <;> rfl

theorem find?_insert {t : Trie α} (ht : t.Ordered) (key : Bytes) (a : α) (key' : Bytes) :
    (t.insert key a).find? key' = if key' = key then some a else t.find? key' := by
  cases key with
  | nil => cases key' <;> simp [insert, find?]
  | cons b key =>
    cases key' with
    | nil => simp [insert, find?]
    | cons b' key' => simp [insert, find?, Forest.find?_insert ht]

theorem find?_erase {t : Trie α} (ht : t.Ordered) (key key' : Bytes) :
    (t.erase key).find? key' = if key' = key then none else t.find? key' := by
  cases key with
  | nil => cases key' <;> simp [erase, find?]
  | cons b key =>
    cases key' with
    | nil => simp [erase, find?]
    | cons b' key' => simp [erase, find?, Forest.find?_erase ht]

theorem put_eq {t : Trie α} (ht : t.Ordered) (key : Bytes) (a : α) :
    t.put key a = (t.find? key, t.insert key a) := by
  cases key with
  | nil => rfl
  | cons b key => simp only [put, find?, insert, Forest.put_eq ht]

theorem take_eq (t : Trie α) (key : Bytes) : t.take key = (t.find? key).map (·, t.erase key) := by
  cases key with
  | nil => rfl
  | cons b key => simp [take, find?, erase, Forest.take_eq, Function.comp_def]

end Trie

end StageRelay
