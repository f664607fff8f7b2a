import StageRelay.Proofs.Trie.Entries
import StageRelay.Proofs.Trie.Longest
import StageRelay.TextMap

/-!
# Maps from texts and their history

A map from texts shows, whatever was stored in it and taken out of it, for each text the value that
was stored last, and of the stored texts that begin a byte string the longest one.
-/

namespace StageRelay.TextMap

variable {α : Type u}

/-! ## Requests -/

/-- What is asked of a map from texts. -/
inductive Request (α : Type u) where
  | put (text : String) (a : α)
  | take (text : String)

/-- The map that a request leaves. -/
def Request.run (m : TextMap α) : Request α → TextMap α
  | put text a => (m.put text a).2
  | take text => (m.take text).2

/-- What the texts stand for after a request. -/
def Request.update (f : String → Option α) : Request α → String → Option α
  | put text a => Function.update f text (some a)
  | take text => Function.update f text none

/-- The map after a history of requests. -/
def after (rs : List (Request α)) : TextMap α :=
  rs.foldl Request.run {}

/-- What the texts stand for after a history of requests: the value stored last, unless it was
taken out since. -/
def latest (rs : List (Request α)) : String → Option α :=
  rs.foldl Request.update fun _ ↦ none

/-! ## What is in the trie -/

/-- The trie holds exactly the entries of `f`, each under the encoding of its own text, and the
counter counts them. -/
structure Represents (m : TextMap α) (f : String → Option α) : Prop where
  ordered : m.trie.Ordered
  find?_iff : ∀ key e,
    m.trie.find? key = some e ↔ key = Bytes.ofText e.1.toList ∧ f e.1 = some e.2
  size : m.size = m.trie.size

theorem encoding_inj {text text' : String} :
    Bytes.ofText text.toList = Bytes.ofText text'.toList ↔ text = text' :=
  ⟨fun h ↦ String.toList_injective (Bytes.ofText_injective h), fun h ↦ h ▸ rfl⟩

namespace Represents

variable {m : TextMap α} {f : String → Option α}

theorem empty : Represents ({} : TextMap α) fun _ ↦ none where
  ordered := Trie.empty_ordered
  find?_iff := by simp
  size := rfl

theorem find? (h : m.Represents f) (text : String) :
    m.trie.find? (Bytes.ofText text.toList) = (f text).map (text, ·) := by
  ext e
  rw [h.find?_iff, Option.map_eq_some_iff]
  constructor
  · rintro ⟨hkey, hf⟩
    obtain rfl := encoding_inj.1 hkey
    exact ⟨e.2, hf, rfl⟩
  · rintro ⟨a, hf, rfl⟩
    exact ⟨rfl, hf⟩

theorem put_eq (h : m.Represents f) (text : String) (a : α) :
    m.put text a = (f text,
      { trie := m.trie.insert (Bytes.ofText text.toList) (text, a),
        size := if (f text).isNone then m.size + 1 else m.size }) := by
  rw [TextMap.put, Trie.put_eq h.ordered, h.find?]
  cases f text <;> rfl

theorem take_eq (h : m.Represents f) (text : String) :
    m.take text = (f text, if (f text).isNone then m else
      { trie := m.trie.erase (Bytes.ofText text.toList), size := m.size - 1 }) := by
  rw [TextMap.take, Trie.take_eq, h.find?]
  cases f text <;> rfl

protected theorem put (h : m.Represents f) (text : String) (a : α) :
    (m.put text a).2.Represents (Function.update f text (some a)) := by
  rw [h.put_eq]
  refine ⟨Trie.insert_ordered h.ordered _ _, ?_, ?_⟩
  · rintro key ⟨text', a'⟩
    rw [Trie.find?_insert h.ordered, Function.update_apply]
    by_cases ht : text' = text
    · subst ht
      split
      · next hkey => simp [hkey]
      · next hkey => simp [h.find?_iff, hkey]
    · split
      · next hkey => simp [hkey, encoding_inj, Ne.symm ht]
      · simp [h.find?_iff]
  · simp only [Trie.size_insert h.ordered, h.find?, Option.isNone_map, h.size]

protected theorem take (h : m.Represents f) (text : String) :
    (m.take text).2.Represents (Function.update f text none) := by
  rw [h.take_eq]
  split
  · next hf =>
    rw [Option.isNone_iff_eq_none] at hf
    rwa [← hf, Function.update_eq_self]
  · next hf =>
    have hfind : (m.trie.find? (Bytes.ofText text.toList)).isSome := by
      simpa [h.find?, Option.isSome_iff_ne_none] using hf
    refine ⟨Trie.erase_ordered h.ordered _, ?_, ?_⟩
    · rintro key ⟨text', a'⟩
      rw [Trie.find?_erase h.ordered, Function.update_apply]
      by_cases ht : text' = text
      · subst ht
        split
        · simp
        · next hkey => simp [h.find?_iff, hkey]
      · split
        · next hkey => simp [hkey, encoding_inj, Ne.symm ht]
        · simp [h.find?_iff]
    · have hsize := Trie.size_erase h.ordered hfind
      simp only [h.size]
      omega

/-- The texts of the entries are the stored ones, each once. -/
theorem exists_texts (h : m.Represents f) : ∃ texts : List String, texts.Nodup ∧
    (∀ text, text ∈ texts ↔ (f text).isSome) ∧ m.size = texts.length := by
  have hkeys : m.trie.toList.map Prod.fst =
      (m.trie.toList.map fun e ↦ e.2.1).map fun text ↦ Bytes.ofText text.toList := by
    rw [List.map_map]
    refine List.map_congr_left ?_
    rintro ⟨key, e⟩ he
    exact ((h.find?_iff key e).1 ((Trie.mem_toList_iff h.ordered).1 he)).1
  refine ⟨m.trie.toList.map fun e ↦ e.2.1, ?_, ?_, ?_⟩
  · refine List.Nodup.of_map (fun text ↦ Bytes.ofText text.toList) ?_
    rw [← hkeys]
    exact Trie.nodup_keys h.ordered
  · intro text
    simp only [List.mem_map, Prod.exists, Trie.mem_toList_iff h.ordered, h.find?_iff,
      Option.isSome_iff_exists]
    constructor
    · rintro ⟨-, _, a, ⟨-, hf⟩, rfl⟩
      exact ⟨a, hf⟩
    · rintro ⟨a, hf⟩
      exact ⟨_, text, a, ⟨rfl, hf⟩, rfl⟩
  · rw [h.size, List.length_map, Trie.length_toList]

end Represents

/-! ## What is seen of it -/

/-- A map from texts answers every request, and every question for a longest beginning, as the
values `f` of the texts say. -/
structure Refines (m : TextMap α) (f : String → Option α) : Prop where
  /-- Storing tells the value that the text had. -/
  put : ∀ text a, (m.put text a).1 = f text
  /-- Taking out tells the value that the text had. -/
  take : ∀ text, (m.take text).1 = f text
  /-- Taking out a text that is not stored changes nothing. -/
  absent : ∀ text, f text = none → (m.take text).2 = m
  /-- The counter is the number of the stored texts. -/
  size : ∃ texts : List String, texts.Nodup ∧ (∀ text, text ∈ texts ↔ (f text).isSome) ∧
    m.size = texts.length
  /-- Where a text is taken out, there is one to count down from. -/
  counts : ∀ text, (m.take text).1.isSome → m.size = (m.take text).2.size + 1
  /-- What is found is the longest stored text that begins the byte string, with its value. -/
  longest : ∀ query text a, m.longest query = some (text, a) ↔
    f text = some a ∧ Bytes.ofText text.toList <+: query ∧
      ∀ text', (f text').isSome → Bytes.ofText text'.toList <+: query →
        (Bytes.ofText text'.toList).length ≤ (Bytes.ofText text.toList).length
  /-- Nothing is found exactly if no stored text begins the byte string. -/
  longest_none : ∀ query, m.longest query = none ↔
    ∀ text, (f text).isSome → ¬ Bytes.ofText text.toList <+: query

namespace Represents

variable {m : TextMap α} {f : String → Option α}

theorem isLongest_some (h : m.Represents f) (query : Bytes) (text : String) (a : α) :
    IsLongest m.trie.find? query (some (Bytes.ofText text.toList, text, a)) ↔
      f text = some a ∧ Bytes.ofText text.toList <+: query ∧
        ∀ text', (f text').isSome → Bytes.ofText text'.toList <+: query →
          (Bytes.ofText text'.toList).length ≤ (Bytes.ofText text.toList).length := by
  constructor
  · rintro ⟨hp, hfind, hmax⟩
    refine ⟨((h.find?_iff _ _).1 hfind).2, hp, ?_⟩
    intro text' hf' hp'
    obtain ⟨a', hf'⟩ := Option.isSome_iff_exists.1 hf'
    exact hmax _ (text', a') hp' ((h.find?_iff _ (text', a')).2 ⟨rfl, hf'⟩)
  · rintro ⟨hf, hp, hmax⟩
    refine ⟨hp, (h.find?_iff _ (text, a)).2 ⟨rfl, hf⟩, ?_⟩
    intro key e hp' hfind
    obtain ⟨rfl, hf'⟩ := (h.find?_iff key e).1 hfind
    exact hmax e.1 (by simp [hf']) hp'

theorem isLongest_none (h : m.Represents f) (query : Bytes) :
    IsLongest m.trie.find? query none ↔
      ∀ text, (f text).isSome → ¬ Bytes.ofText text.toList <+: query := by
  constructor
  · intro hnone text hf hp
    have hfind := hnone _ hp
    rw [h.find?, Option.map_eq_none_iff] at hfind
    simp [hfind] at hf
  · intro hnone key hp
    rw [Option.eq_none_iff_forall_ne_some]
    intro e hfind
    obtain ⟨rfl, hf⟩ := (h.find?_iff key e).1 hfind
    exact hnone e.1 (by simp [hf]) hp

theorem refines (h : m.Represents f) : m.Refines f where
  put text a := by rw [h.put_eq]
  take text := by rw [h.take_eq]
  absent text hf := by simp [h.take_eq, hf]
  size := h.exists_texts
  counts text hsome := by
    rw [h.take_eq] at hsome
    have hsize : 0 < m.size := by
      obtain ⟨texts, -, hmem, hlen⟩ := h.exists_texts
      exact hlen ▸ List.length_pos_of_mem ((hmem text).2 hsome)
    rw [h.take_eq, if_neg (by simpa [Option.isSome_iff_ne_none] using hsome)]
    simp only
    omega
  longest query text a := by
    have hl := m.trie.isLongest_longest query
    rw [← h.isLongest_some]
    constructor
    · intro hbest
      obtain ⟨⟨key, e⟩, htrie, rfl⟩ := Option.map_eq_some_iff.1 hbest
      rw [htrie] at hl
      obtain ⟨rfl, -⟩ := (h.find?_iff key (text, a)).1 hl.2.1
      exact hl
    · intro hbest
      rw [TextMap.longest, hl.unique hbest]
      rfl
  longest_none query := by
    have hl := m.trie.isLongest_longest query
    rw [← h.isLongest_none, TextMap.longest, Option.map_eq_none_iff]
    constructor
    · intro hbest
      rwa [hbest] at hl
    · exact hl.unique

end Represents

/-! ## Histories -/

theorem Request.represents {m : TextMap α} {f : String → Option α} (h : m.Represents f)
    (r : Request α) : (r.run m).Represents (r.update f) := by
  cases r with
  | put text a => exact h.put text a
  | take text => exact h.take text

theorem represents_after (rs : List (Request α)) : (after rs).Represents (latest rs) := by
  have step : ∀ (rs : List (Request α)) {m : TextMap α} {f : String → Option α},
      m.Represents f → (rs.foldl Request.run m).Represents (rs.foldl Request.update f) := by
    intro rs
    induction rs with
    | nil => exact id
    | cons r rs ih => exact fun h ↦ ih (r.represents h)
  exact step rs Represents.empty

/-- After every history, a map from texts is the finite map of the values stored last. -/
theorem refines_latest (rs : List (Request α)) : (after rs).Refines (latest rs) :=
  (represents_after rs).refines

end StageRelay.TextMap
