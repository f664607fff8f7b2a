import StageRelay.RetryQueue

/-!
# Taking out of a retry queue

Exactly one entry leaves at a time, and its time has come. Nothing else about the order in which
entries leave is relied on.
-/

namespace StageRelay

namespace RetryQueue

/-- An entry whose time has come leaves, and the others stay. -/
inductive Yields (q : RetryQueue) (now : Nat) : Notice → RetryQueue → Prop
  | leave {e : Delayed} (he : e ∈ q.entries) (hdue : e.due ≤ now) :
    Yields q now e.notice { q with entries := q.entries.erase e }

theorem earlier_mem {es : List Delayed} {best : Option Delayed} {b : Delayed}
    (h : es.foldl earlier best = some b) : best = some b ∨ b ∈ es := by
  induction es generalizing best with
  | nil => exact .inl h
  | cons e es ih =>
    rcases ih h with hb | hb
    · unfold earlier at hb
      split at hb
      · exact .inr (by simp_all)
      · split at hb
        · exact .inr (by simp_all)
        · exact .inl hb
    · exact .inr (List.mem_cons_of_mem e hb)

theorem mem_of_first?_eq_some {q : RetryQueue} {e : Delayed} (h : q.first? = some e) :
    e ∈ q.entries :=
  (earlier_mem h).resolve_left nofun

/-- So does the entry that comes back first. -/
theorem Yields.of_pop? {q q' : RetryQueue} {now : Nat} {n : Notice}
    (h : q.pop? now = some (n, q')) : q.Yields now n q' := by
  unfold pop? at h
  split at h
  · next e he =>
    split at h
    · next hdue =>
      cases h
      exact .leave (mem_of_first?_eq_some he) hdue
    · cases h
  · cases h

end RetryQueue

end StageRelay
