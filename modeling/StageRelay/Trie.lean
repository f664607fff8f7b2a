import StageRelay.Bytes

/-!
# Compressed tries of byte strings

A forest holds the non-empty byte strings of a set by their first bytes, in increasing order; each
tree of it has a label and below it a forest of what may follow. A tree without a value of its own
always has at least two trees below it, which is what keeps the trie compressed. A trie adds the
empty string.
-/

namespace StageRelay

/-- Trees of a trie, in increasing order of their first bytes `head`; `label` is the rest of a
tree's edge. -/
inductive Forest (α : Type u) where
  | nil
  | node (head : UInt8) (label : Bytes) (value : Option α) (below rest : Forest α)
deriving Repr

namespace Forest

variable {α : Type u}

/-- A single tree. -/
def leaf (head : UInt8) (label : Bytes) (a : α) : Forest α :=
  .node head label (some a) .nil .nil

/-- Two trees with different heads. -/
def fork (h₁ : UInt8) (l₁ : Bytes) (v₁ : Option α) (below₁ : Forest α)
    (h₂ : UInt8) (l₂ : Bytes) (a₂ : α) : Forest α :=
  if h₁ < h₂ then .node h₁ l₁ v₁ below₁ (leaf h₂ l₂ a₂)
  else .node h₂ l₂ (some a₂) .nil (.node h₁ l₁ v₁ below₁ .nil)

/-- Stores a value under the key `b :: key`. -/
def insert (a : α) : Forest α → UInt8 → Bytes → Forest α
  | nil, b, key => leaf b key a
  | node h label v below rest, b, key =>
    if b < h then .node b key (some a) .nil (.node h label v below rest)
    else if h < b then .node h label v below (insert a rest b key)
    else
      match Bytes.split label key with
      | (_, [], []) => .node h label (some a) below rest
      | (_, [], c :: key') => .node h label v (insert a below c key') rest
      | (common, c :: label', []) => .node h common (some a) (.node c label' v below .nil) rest
      | (common, c :: label', d :: key') =>
        .node h common none (fork c label' v below d key' a) rest

/-- A tree, left out if nothing is in it and joined with the only tree below it if it has
no value. -/
def join (h : UInt8) (label : Bytes) : Option α → Forest α → Forest α → Forest α
  | none, nil, rest => rest
  | none, node c label' v below nil, rest => .node h (label ++ c :: label') v below rest
  | v, below, rest => .node h label v below rest

/-- Forgets the key `b :: key`. -/
def erase : Forest α → UInt8 → Bytes → Forest α
  | nil, _, _ => nil
  | node h label v below rest, b, key =>
    if b = h then
      match Bytes.strip label key with
      | none => .node h label v below rest
      | some [] => join h label none below rest
      | some (c :: key') => join h label v (erase below c key') rest
    else .node h label v below (erase rest b key)

/-- Stores a value under the key `b :: key` in one walk, and tells the one that was there. -/
def put (a : α) : Forest α → UInt8 → Bytes → Option α × Forest α
  | nil, b, key => (none, leaf b key a)
  | node h label v below rest, b, key =>
    if b < h then (none, .node b key (some a) .nil (.node h label v below rest))
    else if h < b then
      let (old, rest) := put a rest b key
      (old, .node h label v below rest)
    else
      match Bytes.split label key with
      | (_, [], []) => (v, .node h label (some a) below rest)
      | (_, [], c :: key') =>
        let (old, below) := put a below c key'
        (old, .node h label v below rest)
      | (common, c :: label', []) =>
        (none, .node h common (some a) (.node c label' v below .nil) rest)
      | (common, c :: label', d :: key') =>
        (none, .node h common none (fork c label' v below d key' a) rest)

/-- Takes the key `b :: key` out in one walk, with its value; nothing if it is not there. -/
def take : Forest α → UInt8 → Bytes → Option (α × Forest α)
  | nil, _, _ => none
  | node h label v below rest, b, key =>
    if b = h then
      match Bytes.strip label key with
      | none => none
      | some [] => v.map fun a ↦ (a, join h label none below rest)
      | some (c :: key') =>
        (take below c key').map fun (a, below) ↦ (a, join h label v below rest)
    else (take rest b key).map fun (a, rest) ↦ (a, .node h label v below rest)

/-- The value stored under the key `b :: key`. -/
def find? : Forest α → UInt8 → Bytes → Option α
  | nil, _, _ => none
  | node h label v below rest, b, key =>
    if b = h then
      match Bytes.strip label key with
      | none => none
      | some [] => v
      | some (c :: key') => find? below c key'
    else find? rest b key

/-- The longest key that a byte string starts with, and its value. -/
def longest : Forest α → Bytes → Option (Bytes × α)
  | nil, _ => none
  | node _ _ _ _ _, [] => none
  | node h label v below rest, b :: key =>
    if b = h then
      match Bytes.strip label key with
      | none => none
      | some key' =>
        match longest below key' with
        | some (k, a) => some (h :: label ++ k, a)
        | none => v.map (h :: label, ·)
    else longest rest (b :: key)

/-- The keys and their values, in increasing order. -/
def toList : Forest α → List (Bytes × α)
  | nil => []
  | node h label v below rest =>
    (v.map ((h :: label : Bytes), ·)).toList
      ++ below.toList.map (fun e ↦ (h :: label ++ e.1, e.2)) ++ rest.toList

/-- The number of keys. -/
def size : Forest α → Nat
  | nil => 0
  | node _ _ v below rest => v.toList.length + below.size + rest.size

end Forest

/-- A finite map from byte strings. -/
structure Trie (α : Type u) where
  root : Option α := none
  forest : Forest α := .nil
deriving Repr

namespace Trie

variable {α : Type u}

/-- The map without keys. -/
def empty : Trie α := {}

/-- Stores a value under a key. -/
def insert (t : Trie α) (key : Bytes) (a : α) : Trie α :=
  match key with
  | [] => { t with root := some a }
  | b :: key => { t with forest := t.forest.insert a b key }

/-- Forgets a key. -/
def erase (t : Trie α) (key : Bytes) : Trie α :=
  match key with
  | [] => { t with root := none }
  | b :: key => { t with forest := t.forest.erase b key }

/-- Stores a value under a key in one walk, and tells the one that was there. -/
def put (t : Trie α) (key : Bytes) (a : α) : Option α × Trie α :=
  match key with
  | [] => (t.root, { t with root := some a })
  | b :: key =>
    let (old, forest) := t.forest.put a b key
    (old, { t with forest })

/-- Takes a key out in one walk, with its value; nothing if it is not there. -/
def take (t : Trie α) (key : Bytes) : Option (α × Trie α) :=
  match key with
  | [] => t.root.map fun a ↦ (a, { t with root := none })
  | b :: key => (t.forest.take b key).map fun (a, forest) ↦ (a, { t with forest })

/-- The value stored under a key. -/
def find? (t : Trie α) (key : Bytes) : Option α :=
  match key with
  | [] => t.root
  | b :: key => t.forest.find? b key

/-- The longest key that a byte string starts with, and its value. -/
def longest (t : Trie α) (text : Bytes) : Option (Bytes × α) :=
  match t.forest.longest text with
  | some e => some e
  | none => t.root.map ([], ·)

/-- The keys and their values, in increasing order. -/
def toList (t : Trie α) : List (Bytes × α) :=
  (t.root.map (([] : Bytes), ·)).toList ++ t.forest.toList

/-- The number of keys. -/
def size (t : Trie α) : Nat :=
  t.root.toList.length + t.forest.size

end Trie

end StageRelay
