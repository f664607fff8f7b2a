import StageRelay.Proofs.Trie.Texts

/-!
# The shape of a trie

In a compressed forest every tree has a value of its own or forks below. Insertion and removal keep
it so: a split makes a fork or a value, and what a removal leaves is joined as long as it needs it.
Then the keys tell the shape. An edge is the longest common beginning of the keys that go along it,
so that two compressed forests with the same values are the same forest, and a trie is what it would
have become by any other way to the same keys and values.
-/

namespace StageRelay

namespace Forest

variable {α : Type u}

/-! ## Compressed forests -/

/-- The bytes under which the trees of a forest stand. -/
def heads : Forest α → List UInt8
  | nil => []
  | node h _ _ _ rest => h :: rest.heads

/-- A tree without a value has at least two trees below it, at every level. -/
def Compressed : Forest α → Prop
  | nil => True
  | node _ _ v below rest =>
    (v = none → 2 ≤ below.heads.length) ∧ below.Compressed ∧ rest.Compressed

theorem leaf_compressed (h : UInt8) (label : Bytes) (a : α) : (leaf h label a).Compressed :=
  ⟨nofun, trivial, trivial⟩

@[simp] theorem length_heads_fork (h₁ : UInt8) (l₁ : Bytes) (v₁ : Option α) (below₁ : Forest α)
    (h₂ : UInt8) (l₂ : Bytes) (a₂ : α) :
    (fork h₁ l₁ v₁ below₁ h₂ l₂ a₂).heads.length = 2 := by
  unfold fork
  split <;> rfl

theorem fork_compressed {v₁ : Option α} {below₁ : Forest α}
    (hv : v₁ = none → 2 ≤ below₁.heads.length) (hb : below₁.Compressed) (h₁ : UInt8) (l₁ : Bytes)
    (h₂ : UInt8) (l₂ : Bytes) (a₂ : α) : (fork h₁ l₁ v₁ below₁ h₂ l₂ a₂).Compressed := by
  unfold fork
  split
  · exact ⟨hv, hb, leaf_compressed h₂ l₂ a₂⟩
  · exact ⟨nofun, trivial, hv, hb, trivial⟩

/-- Insertion leaves no tree out. -/
theorem length_heads_le_insert (f : Forest α) (a : α) (b : UInt8) (key : Bytes) :
    f.heads.length ≤ (f.insert a b key).heads.length := by
  induction f with
  | nil => exact Nat.zero_le _
  | node h label v below rest _ ihr =>
    simp only [insert]
    split
    · simp [heads]
    · split
      · simpa [heads] using ihr
      · split <;> exact Nat.le_refl _

theorem insert_compressed {f : Forest α} (hf : f.Compressed) (a : α) (b : UInt8) (key : Bytes) :
    (f.insert a b key).Compressed := by
  induction f generalizing b key with
  | nil => exact leaf_compressed b key a
  | node h label v below rest ihb ihr =>
    obtain ⟨hv, hb, hr⟩ := hf
    simp only [insert]
    split
    · exact ⟨by simp, trivial, hv, hb, hr⟩
    · split
      · exact ⟨hv, hb, ihr hr b key⟩
      · split
        · exact ⟨by simp, hb, hr⟩
        · exact ⟨fun hn ↦ Nat.le_trans (hv hn) (below.length_heads_le_insert a _ _), ihb hb _ _, hr⟩
        · exact ⟨by simp, ⟨hv, hb, trivial⟩, hr⟩
        · exact ⟨fun _ ↦ by simp, fork_compressed hv hb _ _ _ _ _, hr⟩

/-- A tree that lost its value, or one of the trees below it, is mended by joining it. -/
theorem join_compressed {below rest : Forest α} (hb : below.Compressed) (hr : rest.Compressed)
    (h : UInt8) (label : Bytes) (v : Option α) : (join h label v below rest).Compressed := by
  unfold join
  split
  · exact hr
  · exact ⟨hb.1, hb.2.1, hr⟩
  · next hnil hone =>
    refine ⟨?_, hb, hr⟩
    rintro rfl
    cases below with
    | nil => exact (hnil rfl rfl).elim
    | node c l w below' rest' =>
      cases rest' with
      | nil => exact (hone c l w below' rfl rfl).elim
      | node => simp [heads]

theorem erase_compressed {f : Forest α} (hf : f.Compressed) (b : UInt8) (key : Bytes) :
    (f.erase b key).Compressed := by
  induction f generalizing b key with
  | nil => trivial
  | node h label v below rest ihb ihr =>
    obtain ⟨hv, hb, hr⟩ := hf
    simp only [erase]
    split
    · split
      · exact ⟨hv, hb, hr⟩
      · exact join_compressed hb hr _ _ _
      · exact join_compressed (ihb hb _ _) hr _ _ _
    · exact ⟨hv, hb, ihr hr b key⟩

/-! ## The keys tell the shape -/

/-- Some key goes along the edge of a compressed tree. -/
theorem exists_along {v : Option α} {below : Forest α} (hv : v = none → 2 ≤ below.heads.length)
    (hb : below.Compressed) (label : Bytes) :
    ∃ rest, (along label v below (label ++ rest)).isSome := by
  induction below generalizing v label with
  | nil =>
    cases v with
    | some a => exact ⟨[], by simp⟩
    | none => exact absurd (hv rfl) (by simp [heads])
  | node c l w below' rest' ihb _ =>
    obtain ⟨key, hkey⟩ := ihb hb.1 hb.2.1 l
    exact ⟨c :: (l ++ key), by simpa [at?, find?_node] using hkey⟩

/-- Some key goes along the edge of each tree. -/
theorem exists_find? {f : Forest α} (ho : f.Ordered) (hf : f.Compressed) {b : UInt8}
    (hb : b ∈ f.heads) : ∃ key, (f.find? b key).isSome := by
  induction f with
  | nil => cases hb
  | node h label v below rest _ ihr =>
    obtain ⟨ha, -, hor⟩ := ho
    obtain ⟨hv, hcb, hcr⟩ := hf
    by_cases hbh : b = h
    · obtain ⟨key, hkey⟩ := exists_along hv hcb label
      exact ⟨label ++ key, by rw [find?_node, if_pos hbh]; exact hkey⟩
    · obtain ⟨key, hkey⟩ := ihr hor hcr ((List.mem_cons.1 hb).resolve_left hbh)
      exact ⟨key, by rw [find?_node, if_neg hbh]; exact hkey⟩

/-- Where two texts part, nothing longer begins both of them. -/
theorem isPrefix_of_isPrefix_forks {p label k k' : Bytes} {c c' : UInt8} (hne : c ≠ c')
    (h : p <+: label ++ c :: k) (h' : p <+: label ++ c' :: k') : p <+: label := by
  obtain hp | ⟨q, rfl⟩ := List.prefix_or_prefix_of_prefix h (List.prefix_append label (c :: k))
  · exact hp
  · rw [List.prefix_append_right_inj] at h h'
    cases q with
    | nil => simp
    | cons d q =>
      have hd := (List.cons_prefix_cons.1 h).1
      exact absurd (hd.symm.trans (List.cons_prefix_cons.1 h').1) hne

/-- The edge of a compressed tree is the longest common beginning of the keys that go along it. -/
theorem isPrefix_label {v : Option α} {below : Forest α} (ho : below.Ordered)
    (hv : v = none → 2 ≤ below.heads.length) (hb : below.Compressed) {label p : Bytes}
    (hp : ∀ key, (along label v below key).isSome → p <+: key) : p <+: label := by
  cases v with
  | some a => exact hp label (by simp)
  | none =>
    -- two trees below have different heads, and each of them holds a key
    match below, ho, hv rfl, hb with
    | node c l w f (node c' l' w' f' rest), ho, _, hb =>
      have hlt : c < c' := ho.1
      obtain ⟨k, hk⟩ := exists_find? ho hb (b := c) (by simp [heads])
      obtain ⟨k', hk'⟩ := exists_find? ho hb (b := c') (by simp [heads])
      refine isPrefix_of_isPrefix_forks (UInt8.ne_of_lt hlt)
        (hp (label ++ c :: k) ?_) (hp (label ++ c' :: k') ?_)
      · rw [along_append]
        exact hk
      · rw [along_append]
        exact hk'

/-- Trees with the same keys have the same edge, and the same value at the end of it. -/
theorem label_unique {v v' : Option α} {below below' : Forest α} (ho : below.Ordered)
    (ho' : below'.Ordered) (hv : v = none → 2 ≤ below.heads.length)
    (hv' : v' = none → 2 ≤ below'.heads.length) (hb : below.Compressed) (hb' : below'.Compressed)
    {label label' : Bytes} (h : ∀ key, along label v below key = along label' v' below' key) :
    label = label' ∧ v = v' := by
  have begins {l : Bytes} {w : Option α} {f : Forest α} {key : Bytes}
      (hkey : (along l w f key).isSome) : l <+: key := by
    obtain ⟨rest, rfl⟩ | ⟨-, hne⟩ := Bytes.strip_cases l key
    · exact List.prefix_append l rest
    · simp [along_eq_none hne] at hkey
  have hle : label' <+: label := isPrefix_label ho hv hb fun key hkey ↦ begins (h key ▸ hkey)
  have hge : label <+: label' := isPrefix_label ho' hv' hb' fun key hkey ↦ begins (h key ▸ hkey)
  obtain rfl : label = label' := hge.eq_of_length_le hle.length_le
  exact ⟨rfl, by simpa using h label⟩

/-- Compressed forests with the same values are the same forest. -/
theorem Compressed.ext {f g : Forest α} (hof : f.Ordered) (hog : g.Ordered) (hf : f.Compressed)
    (hg : g.Compressed) (h : ∀ b key, f.find? b key = g.find? b key) : f = g := by
  induction f generalizing g with
  | nil =>
    cases g with
    | nil => rfl
    | node c l w below rest =>
      obtain ⟨key, hkey⟩ := exists_find? hog hg (b := c) (by simp [heads])
      simp [← h] at hkey
  | node b label v below rest ihb ihr =>
    obtain ⟨key, hkey⟩ := exists_find? hof hf (b := b) (by simp [heads])
    cases g with
    | nil => simp [h] at hkey
    | node c label' v' below' rest' =>
      obtain ⟨key', hkey'⟩ := exists_find? hog hg (b := c) (by simp [heads])
      -- the first head of either forest is the least one that leads to a key
      obtain rfl : b = c := by
        by_contra hne
        obtain hlt | hlt : b < c ∨ c < b := by grind
        · rw [h, find?_of_above hog hlt] at hkey
          cases hkey
        · rw [← h, find?_of_above hof hlt] at hkey'
          cases hkey'
      obtain ⟨ha, hob, hor⟩ := hof
      obtain ⟨ha', hob', hor'⟩ := hog
      obtain ⟨hv, hcb, hcr⟩ := hf
      obtain ⟨hv', hcb', hcr'⟩ := hg
      have halong (key : Bytes) : along label v below key = along label' v' below' key := by
        simpa [find?_node] using h b key
      obtain ⟨rfl, rfl⟩ := label_unique hob hob' hv hv' hcb hcb' halong
      have hbelow : below = below' := ihb hob hob' hcb hcb' fun d key ↦ by
        simpa [at?] using halong (label ++ d :: key)
      have hrest : rest = rest' := ihr hor hor' hcr hcr' fun d key ↦ by
        by_cases hd : d = b
        · rw [hd, find?_of_above hor ha, find?_of_above hor' ha']
        · simpa [find?_node, hd] using h d key
      rw [hbelow, hrest]

/-! ## Trees at any depth -/

/-- A tree somewhere in a forest: the edges on the way to it, one after the other, the byte under
which it stands among its siblings, its own edge, its value, and the trees below it. -/
structure Node (α : Type u) where
  above : Bytes
  head : UInt8
  edge : Bytes
  value : Option α
  below : Forest α

/-- All trees of a forest that hangs below `path`. -/
def nodes (path : Bytes) : Forest α → List (Node α)
  | nil => []
  | node h label v below rest =>
    ⟨path, h, h :: label, v, below⟩ :: (below.nodes (path ++ h :: label) ++ rest.nodes path)

theorem Above.lt_of_mem_heads {f : Forest α} {b c : UInt8} (hf : f.Ordered) (h : f.Above b)
    (hc : c ∈ f.heads) : b < c := by
  induction f with
  | nil => cases hc
  | node d label v below rest _ ihr =>
    obtain rfl | hc := List.mem_cons.1 hc
    · exact h
    · exact ihr hf.2.2 (hf.1.trans h) hc

theorem Ordered.heads {f : Forest α} (hf : f.Ordered) : f.heads.Pairwise (· < ·) := by
  induction f with
  | nil => exact List.Pairwise.nil
  | node h label v below rest _ ihr =>
    exact List.pairwise_cons.2 ⟨fun _ hd ↦ hf.1.lt_of_mem_heads hf.2.2 hd, ihr hf.2.2⟩

/-- What a compressed forest is like everywhere. -/
structure Node.Regular (n : Node α) : Prop where
  /-- A tree stands under the first byte of its edge, which is not empty. -/
  head : n.edge.head? = some n.head
  /-- No two trees stand under the same byte. -/
  heads : n.below.heads.Pairwise (· < ·)
  /-- Without a value there are at least two trees below. -/
  branches : n.value = none → 2 ≤ n.below.heads.length

theorem regular_of_mem_nodes {f : Forest α} (ho : f.Ordered) (hf : f.Compressed) {path : Bytes}
    {n : Node α} (hn : n ∈ f.nodes path) : n.Regular := by
  induction f generalizing path with
  | nil => cases hn
  | node h label v below rest ihb ihr =>
    obtain rfl | hn := List.mem_cons.1 hn
    · exact ⟨rfl, ho.2.1.heads, hf.1⟩
    · obtain hn | hn := List.mem_append.1 hn
      · exact ihb ho.2.1 hf.2.1 hn
      · exact ihr ho.2.2 hf.2.2 hn

/-- The value of a tree is found under the edges that lead to it. -/
theorem find?_of_mem_nodes {f : Forest α} (ho : f.Ordered) {path : Bytes} {n : Node α}
    (hn : n ∈ f.nodes path) :
    ∃ b ∈ f.heads, ∃ key, n.above ++ n.edge = path ++ b :: key ∧ f.find? b key = n.value := by
  induction f generalizing path with
  | nil => cases hn
  | node h label v below rest ihb ihr =>
    obtain ⟨ha, hob, hor⟩ := ho
    obtain rfl | hn := List.mem_cons.1 hn
    · exact ⟨h, List.mem_cons_self, label, rfl, by simp [find?_node]⟩
    · obtain hn | hn := List.mem_append.1 hn
      · obtain ⟨b, -, key, hkey, hvalue⟩ := ihb hob hn
        refine ⟨h, List.mem_cons_self, label ++ b :: key, by simpa using hkey, ?_⟩
        rw [find?_node, if_pos rfl, along_append]
        exact hvalue
      · obtain ⟨b, hb, key, hkey, hvalue⟩ := ihr hor hn
        refine ⟨b, List.mem_cons_of_mem h hb, key, hkey, ?_⟩
        have hne : b ≠ h := (UInt8.ne_of_lt (ha.lt_of_mem_heads hor hb)).symm
        rw [find?_node, if_neg hne]
        exact hvalue

end Forest

namespace Trie

variable {α : Type u}

/-- Every tree of a trie without a value of its own forks. -/
def Compressed (t : Trie α) : Prop :=
  t.forest.Compressed

/-- All trees of a trie. -/
def nodes (t : Trie α) : List (Forest.Node α) :=
  t.forest.nodes []

theorem insert_compressed {t : Trie α} (ht : t.Compressed) (key : Bytes) (a : α) :
    (t.insert key a).Compressed := by
  cases key with
  | nil => exact ht
  | cons b key => exact Forest.insert_compressed ht a b key

theorem erase_compressed {t : Trie α} (ht : t.Compressed) (key : Bytes) :
    (t.erase key).Compressed := by
  cases key with
  | nil => exact ht
  | cons b key => exact Forest.erase_compressed ht b key

/-- A trie is known by its keys and their values. -/
theorem Compressed.ext {t u : Trie α} (hot : t.Ordered) (hou : u.Ordered) (ht : t.Compressed)
    (hu : u.Compressed) (h : ∀ key, t.find? key = u.find? key) : t = u := by
  obtain ⟨root, forest⟩ := t
  obtain ⟨root', forest'⟩ := u
  obtain rfl : root = root' := h []
  obtain rfl : forest = forest' :=
    Forest.Compressed.ext hot hou ht hu fun b key ↦ h (b :: key)
  rfl

theorem find?_of_mem_nodes {t : Trie α} (ht : t.Ordered) {n : Forest.Node α} (hn : n ∈ t.nodes) :
    t.find? (n.above ++ n.edge) = n.value := by
  obtain ⟨b, -, key, hkey, hvalue⟩ := Forest.find?_of_mem_nodes ht hn
  rw [hkey]
  exact hvalue

end Trie

/-! ## Maps from texts -/

namespace TextMap

variable {α : Type u} {m m' : TextMap α} {f : String → Option α}

theorem Represents.put_compressed (h : m.Represents f) (hm : m.trie.Compressed) (text : String)
    (a : α) : (m.put text a).2.trie.Compressed := by
  rw [h.put_eq]
  exact Trie.insert_compressed hm _ _

theorem Represents.take_compressed (h : m.Represents f) (hm : m.trie.Compressed) (text : String) :
    (m.take text).2.trie.Compressed := by
  rw [h.take_eq]
  split
  · exact hm
  · exact Trie.erase_compressed hm _

/-- Compressed maps with the same values are the same map. -/
theorem Represents.eq (h : m.Represents f) (h' : m'.Represents f) (hm : m.trie.Compressed)
    (hm' : m'.trie.Compressed) : m = m' := by
  have htrie : m.trie = m'.trie := by
    refine Trie.Compressed.ext h.ordered h'.ordered hm hm' fun key ↦ ?_
    ext e
    rw [h.find?_iff, h'.find?_iff]
  have hsize : m.size = m'.size := by rw [h.size, h'.size, htrie]
  obtain ⟨trie, size⟩ := m
  obtain ⟨trie', size'⟩ := m'
  obtain rfl : trie = trie' := htrie
  obtain rfl : size = size' := hsize
  rfl

theorem compressed_after (rs : List (Request α)) : (after rs).trie.Compressed := by
  have step : ∀ (rs : List (Request α)) {m : TextMap α} {f : String → Option α},
      m.Represents f → m.trie.Compressed → (rs.foldl Request.run m).trie.Compressed := by
    intro rs
    induction rs with
    | nil => exact fun _ hm ↦ hm
    | cons r rs ih =>
      intro m f h hm
      refine ih (r.represents h) ?_
      cases r with
      | put text a => exact h.put_compressed hm text a
      | take text => exact h.take_compressed hm text
  exact step rs Represents.empty trivial

/-- After every history, each tree of the trie stands under the first byte of its edge, which is not
empty, and apart from its siblings; it has at least two trees below it if it has no value; and a
value is stored with the text whose encoding the edges on the way to it make up, also at the root.
So a map is known by what its texts stand for, whatever the history was, and to take out a text
right after it was stored for the first time gives back the map that was there before. -/
theorem canonical_after (rs : List (Request α)) :
    (∀ n ∈ (after rs).trie.nodes,
        n.Regular ∧ ∀ e ∈ n.value, n.above ++ n.edge = Bytes.ofText e.1.toList) ∧
      ((after rs).trie.forest.heads.Pairwise (· < ·) ∧ ∀ e ∈ (after rs).trie.root, e.1 = "") ∧
      (∀ rs' : List (Request α), latest rs = latest rs' → after rs = after rs') ∧
      ∀ text a, ((after rs).put text a).1 = none →
        (((after rs).put text a).2.take text).2 = after rs := by
  have h := represents_after rs
  have hm := compressed_after rs
  refine ⟨?_, ⟨h.ordered.heads, ?_⟩, ?_, ?_⟩
  · intro n hn
    refine ⟨Forest.regular_of_mem_nodes h.ordered hm hn, ?_⟩
    intro e he
    exact ((h.find?_iff _ e).1 ((Trie.find?_of_mem_nodes h.ordered hn).trans he)).1
  · intro e he
    have hroot := ((h.find?_iff [] e).1 he).1
    exact encoding_inj.1 hroot.symm
  · intro rs' hrs
    exact h.eq (hrs ▸ represents_after rs') hm (compressed_after rs')
  · intro text a hfresh
    have hf : latest rs text = none := (h.refines.put text a).symm.trans hfresh
    have hput := h.put text a
    have hback := hput.take text
    rw [Function.update_idem, ← hf, Function.update_eq_self] at hback
    exact hback.eq h (hput.take_compressed (h.put_compressed hm text a) text) hm

/-- Different histories that leave the same two texts leave the same trie: what was split for
the texts in between is joined again. -/
theorem canonical_after_merge :
    let rs : List (Request Nat) := [.put "abc" 1, .put "abd" 2, .put "ab" 3, .put "" 5, .take "ab",
      .put "abcd" 4, .take "abc", .take ""]
    let rs' : List (Request Nat) := [.put "abcd" 4, .put "abd" 2]
    after rs = after rs' ∧
      ((after rs).trie.nodes.map fun n ↦ (n.above, n.edge, n.below.heads)) =
        [([], [97, 98], [99, 100]), ([97, 98], [99, 100], []), ([97, 98], [100], [])] ∧
      ((after rs).put "abz" 7).1 = none ∧
      (((after rs).put "abz" 7).2.take "abz").2 = after rs' := by
  intro rs rs'
  obtain ⟨-, -, hsame, hback⟩ := canonical_after rs
  have hlatest : latest rs = latest rs' := by
    funext text
    simp only [rs, rs', latest, List.foldl, Request.update, Function.update_apply]
    grind
  have hfresh : ((after rs).put "abz" 7).1 = none := by decide +kernel
  refine ⟨hsame rs' hlatest, by decide +kernel, hfresh, ?_⟩
  rw [← hsame rs' hlatest]
  exact hback "abz" 7 hfresh

end TextMap

end StageRelay
