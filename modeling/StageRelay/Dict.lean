/-!
# Dictionaries

Finite maps from texts, as lists of entries in strictly increasing order of their keys. The order is
that of code points, which is also the order of the encoded bytes.
-/

namespace StageRelay

/-- Entries of a finite map, in increasing order of their keys. -/
abbrev Dict (α : Type u) := List (String × α)

namespace Dict

variable {α : Type u}

/-- Sets the value of a key. -/
def insert (k : String) (a : α) : Dict α → Dict α
  | [] => [(k, a)]
  | (k', a') :: rest =>
    if k < k' then (k, a) :: (k', a') :: rest
    else if k = k' then (k, a) :: rest
    else (k', a') :: insert k a rest

/-- The value of a key. -/
def find? (k : String) : Dict α → Option α
  | [] => none
  | (k', a) :: rest => if k = k' then some a else find? k rest

/-- Forgets a key. -/
def erase (k : String) : Dict α → Dict α
  | [] => []
  | (k', a) :: rest => if k = k' then rest else (k', a) :: erase k rest

/-- The map of a list of entries, of which the last one for a key counts. -/
def ofEntries (entries : List (String × α)) : Dict α :=
  entries.foldl (fun d e ↦ insert e.1 e.2 d) []

/-- The keys, in increasing order. -/
def keys (d : Dict α) : List String :=
  d.map Prod.fst

@[simp] theorem find?_nil (k : String) : find? k ([] : Dict α) = none := rfl

@[simp] theorem find?_insert (k k' : String) (a : α) (d : Dict α) :
    find? k (insert k' a d) = if k = k' then some a else find? k d := by
  induction d with
  | nil => simp [insert, find?]
  | cons e rest ih =>
    obtain ⟨l, b⟩ := e
    simp only [insert]
    split
    · simp [find?]
    · split
      · next h => subst h; by_cases h : k = k' <;> simp [find?, h]
      · next h =>
        simp only [find?, ih]
        by_cases hl : k = l
        · simp [hl, Ne.symm h]
        · simp [hl]

end Dict

end StageRelay
