import StageRelay.Trie

/-!
# Finite maps from texts

A trie of the encodings of the texts, which stores each text beside its value, and a counter of
the stored texts.
-/

namespace StageRelay

/-- A finite map from texts. -/
structure TextMap (α : Type u) where
  trie : Trie (String × α) := .empty
  size : Nat := 0
deriving Repr

namespace TextMap

variable {α : Type u}

/-- Stores a value under a text, and tells the one that was there. -/
def put (m : TextMap α) (text : String) (a : α) : Option α × TextMap α :=
  let (old, trie) := m.trie.put (Bytes.ofText text.toList) (text, a)
  (old.map Prod.snd, { trie, size := if old.isNone then m.size + 1 else m.size })

/-- Forgets a text, and tells its value. -/
def take (m : TextMap α) (text : String) : Option α × TextMap α :=
  match m.trie.take (Bytes.ofText text.toList) with
  | some ((_, a), trie) => (some a, { trie, size := m.size - 1 })
  | none => (none, m)

/-- The longest stored text whose encoding begins a byte string, and its value. -/
def longest (m : TextMap α) (query : Bytes) : Option (String × α) :=
  (m.trie.longest query).map Prod.snd

end TextMap

end StageRelay
