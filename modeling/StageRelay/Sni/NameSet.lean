/-!
# Sets of names

Names in strictly increasing order, so that sets with the same names are equal.
-/

namespace StageRelay

/-- A set of names. -/
abbrev NameSet := List String

namespace NameSet

/-- Adds a name. -/
def insert (n : String) : NameSet → NameSet
  | [] => [n]
  | m :: rest =>
    if n < m then n :: m :: rest
    else if n = m then m :: rest
    else m :: insert n rest

/-- The set of the names of a list. -/
def ofList (ns : List String) : NameSet :=
  ns.foldr insert []

/-- The names of one set that are not in another. -/
def diff (s t : NameSet) : NameSet :=
  s.filter fun n ↦ !t.contains n

@[simp] theorem mem_insert {n m : String} {s : NameSet} : n ∈ insert m s ↔ n = m ∨ n ∈ s := by
  induction s with
  | nil => simp [insert]
  | cons l rest ih =>
    simp only [insert]
    split
    · simp
    · split
      · next h => subst h; simp
      · simp only [List.mem_cons, ih]
        constructor
        · rintro (h | h | h) <;> simp [h]
        · rintro (h | h | h) <;> simp [h]

@[simp] theorem mem_ofList {n : String} {ns : List String} : n ∈ ofList ns ↔ n ∈ ns := by
  induction ns with
  | nil => simp [ofList]
  | cons m rest ih =>
    rw [ofList, List.foldr_cons, mem_insert, List.mem_cons]
    exact or_congr_right ih

@[simp] theorem mem_diff {n : String} {s t : NameSet} : n ∈ diff s t ↔ n ∈ s ∧ n ∉ t := by
  simp [diff]

end NameSet

end StageRelay
