/-!
# Association lists

Finite maps as lists with at most one entry for each key, in the order in which the keys were first
stored.
-/

namespace StageRelay

/-- Entries of a finite map. -/
abbrev Assoc (α : Type u) (β : Type v) := List (α × β)

namespace Assoc

variable {α : Type u} {β : Type v} [DecidableEq α]

/-- Sets the value of a key. -/
def insert (k : α) (b : β) : Assoc α β → Assoc α β
  | [] => [(k, b)]
  | (k', b') :: rest => if k = k' then (k, b) :: rest else (k', b') :: insert k b rest

/-- The value of a key. -/
def find? (k : α) : Assoc α β → Option β
  | [] => none
  | (k', b) :: rest => if k = k' then some b else find? k rest

/-- Forgets a key. -/
def erase (k : α) : Assoc α β → Assoc α β
  | [] => []
  | (k', b) :: rest => if k = k' then erase k rest else (k', b) :: erase k rest

@[simp] theorem find?_nil (k : α) : find? k ([] : Assoc α β) = none := rfl

@[simp] theorem find?_insert (k k' : α) (b : β) (m : Assoc α β) :
    find? k (insert k' b m) = if k = k' then some b else find? k m := by
  induction m with
  | nil => simp [insert, find?]
  | cons e rest ih =>
    obtain ⟨l, c⟩ := e
    simp only [insert]
    split
    · next h => subst h; by_cases h : k = k' <;> simp [find?, h]
    · next h =>
      simp only [find?, ih]
      by_cases hl : k = l
      · simp [hl, Ne.symm h]
      · simp [hl]

@[simp] theorem find?_erase (k k' : α) (m : Assoc α β) :
    find? k (erase k' m) = if k = k' then none else find? k m := by
  induction m with
  | nil => simp [erase]
  | cons e rest ih =>
    obtain ⟨l, c⟩ := e
    simp only [erase]
    by_cases h : k' = l <;> by_cases h' : k = k' <;> simp_all [find?]

end Assoc

end StageRelay
