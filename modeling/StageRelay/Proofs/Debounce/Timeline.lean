import Mathlib.Data.List.Induction
import Mathlib.Data.Nat.Find
import StageRelay.Proofs.Debounce

/-!
# Debouncing over whole runs

What has happened to a debouncer tells which stages a drain takes out: those that have changed since
they were last taken out, and that have been left alone for longer than the debounce window or have
waited for longer than the force window. So every change is taken out once, and none waits for long.
-/

namespace StageRelay

namespace Debouncer

/-! ## Histories -/

/-- What is done to a debouncer. -/
inductive Act where
  | update (stage : Stage)
  /-- Time passes. -/
  | pass (millis : Nat)
  | drain

/-- What has happened to a debouncer, and when. -/
inductive Event where
  | updated (time : Nat) (stage : Stage)
  | drained (time : Nat) (stages : List Stage)

/-- Whether an event takes out the stage that waits under a key. -/
def Event.takes (key : String) : Event → Bool
  | .updated _ _ => false
  | .drained _ stages => stages.any fun s ↦ s.key = key

/-- What an event makes of the changes under a key that have not been taken out. -/
def Event.collect (key : String) (changes : List (Nat × Stage)) : Event → List (Nat × Stage)
  | .updated time s => if s.key = key then changes ++ [(time, s)] else changes
  | .drained time stages => if (drained time stages).takes key then [] else changes

/-- The changes under a key since it was last taken out, with their times, oldest first. -/
def changes (key : String) (past : List Event) : List (Nat × Stage) :=
  past.foldl (Event.collect key) []

/-- A debouncer, the time, and what has happened so far, oldest first. -/
structure Timeline where
  debouncer : Debouncer
  now : Nat
  past : List Event := []

namespace Timeline

/-- A debouncer in which no stage waits. -/
def start (debounce force now : Nat) : Timeline :=
  { debouncer := { debounce, force }, now }

/-- Does something to a debouncer. -/
def act (x : Timeline) : Act → Timeline
  | .update s =>
    { x with debouncer := x.debouncer.update x.now s, past := x.past ++ [.updated x.now s] }
  | .pass millis => { x with now := x.now + millis }
  | .drain =>
    { x with
      debouncer := (x.debouncer.drain x.now).2
      past := x.past ++ [.drained x.now (x.debouncer.drain x.now).1] }

/-- Does things to a debouncer one after the other. -/
def run (x : Timeline) (acts : List Act) : Timeline :=
  acts.foldl act x

theorem run_append (x : Timeline) (acts acts' : List Act) :
    x.run (acts ++ acts') = (x.run acts).run acts' :=
  List.foldl_append

end Timeline

/-! ## Changes -/

section Changes

variable {key : String} {past before after : List Event} {time : Nat} {s : Stage}

theorem changes_concat (e : Event) :
    changes key (past ++ [e]) = e.collect key (changes key past) := by
  rw [changes, List.foldl_append]
  rfl

/-- A change that nothing has taken out since is among those that are left. -/
theorem mem_foldl_collect {cs : List (Nat × Stage)} (h : ∀ e ∈ after, e.takes key = false)
    {c : Nat × Stage} (hc : c ∈ cs) : c ∈ after.foldl (Event.collect key) cs := by
  induction after generalizing cs with
  | nil => exact hc
  | cons e after ih =>
    obtain ⟨he, hafter⟩ := List.forall_mem_cons.1 h
    refine ih hafter ?_
    cases e with
    | updated time s =>
      rw [Event.collect]
      split
      · exact List.mem_append_left _ hc
      · exact hc
    | drained time stages => rwa [Event.collect, he, if_neg Bool.false_ne_true]

theorem mem_changes_of_not_takes (h : ∀ e ∈ after, e.takes s.key = false) :
    (time, s) ∈ changes s.key (before ++ .updated time s :: after) := by
  rw [changes, List.foldl_append, List.foldl_cons]
  refine mem_foldl_collect h ?_
  rw [Event.collect, if_pos rfl]
  exact List.mem_append_right _ (List.mem_singleton_self _)

/-- The changes that are left have happened. -/
theorem updated_mem_of_mem_foldl_collect {cs : List (Nat × Stage)} {c : Nat × Stage}
    (h : c ∈ past.foldl (Event.collect key) cs) :
    c ∈ cs ∨ .updated c.1 c.2 ∈ past ∧ c.2.key = key := by
  induction past generalizing cs with
  | nil => exact .inl h
  | cons e past ih =>
    rcases ih h with hc | ⟨hc, hkey⟩
    · cases e with
      | updated time s =>
        rw [Event.collect] at hc
        split at hc
        · next hs =>
          rcases List.mem_append.1 hc with hc | hc
          · exact .inl hc
          · obtain rfl := List.mem_singleton.1 hc
            exact .inr ⟨List.mem_cons_self, hs⟩
        · exact .inl hc
      | drained time stages =>
        rw [Event.collect] at hc
        split at hc
        · cases hc
        · exact .inl hc
    · exact .inr ⟨List.mem_cons_of_mem e hc, hkey⟩

/-- After a key was taken out only later changes count. -/
theorem changes_of_takes {e : Event} (h : e.takes key) :
    changes key (before ++ e :: after) = changes key after := by
  rw [changes, List.foldl_append, List.foldl_cons]
  congr 1
  cases e with
  | updated time s => cases h
  | drained time stages => rw [Event.collect, if_pos h]

/-- How the changes under a key wait together. -/
def waitingOf (debounce : Nat) (cs : List (Nat × Stage)) : Option Waiting := do
  let first ← cs.head?
  let last ← cs.getLast?
  return ⟨last.2, first.1, last.1 + debounce⟩

theorem waitingOf_concat (debounce : Nat) (cs : List (Nat × Stage)) (c : Nat × Stage) :
    waitingOf debounce (cs ++ [c]) =
      some ⟨c.2, ((waitingOf debounce cs).map Waiting.since).getD c.1, c.1 + debounce⟩ := by
  cases cs with
  | nil => rfl
  | cons d cs =>
    have hlast : (d :: cs).getLast? = some ((d :: cs).getLast (List.cons_ne_nil d cs)) :=
      List.getLast?_eq_some_getLast _
    simp only [waitingOf, List.getLast?_concat, hlast]
    rfl

theorem isSome_waitingOf {debounce : Nat} {cs : List (Nat × Stage)} (h : cs ≠ []) :
    (waitingOf debounce cs).isSome := by
  rw [← List.dropLast_concat_getLast h, waitingOf_concat]
  rfl

theorem waitingOf_eq_some_iff {debounce : Nat} {cs : List (Nat × Stage)} {w : Waiting} :
    waitingOf debounce cs = some w ↔ ∃ first last, cs.head? = some first ∧
      cs.getLast? = some last ∧ w = ⟨last.2, first.1, last.1 + debounce⟩ := by
  cases hfirst : cs.head? <;> cases hlast : cs.getLast? <;>
    simp [waitingOf, hfirst, hlast, eq_comm]

end Changes

/-! ## Drains -/

section Drains

variable {d : Debouncer} {now : Nat} {s : Stage} {key : String}

theorem mem_due_iff (hd : d.waiting.Sorted) (hk : d.Keyed) :
    s ∈ d.due now ↔ ∃ w, d.waiting.find? s.key = some w ∧ d.isDue now w ∧ w.stage = s := by
  simp only [due, List.mem_map, List.mem_filter]
  constructor
  · rintro ⟨⟨key, w⟩, ⟨he, hdue⟩, rfl⟩
    obtain rfl : key = w.stage.key := hk _ he
    exact ⟨w, hd.find?_eq_some_iff.2 he, hdue, rfl⟩
  · rintro ⟨w, hw, hdue, rfl⟩
    exact ⟨(w.stage.key, w), ⟨hd.find?_eq_some_iff.1 hw, hdue⟩, rfl⟩

theorem mem_keys_due_iff (hd : d.waiting.Sorted) (hk : d.Keyed) :
    key ∈ (d.due now).map Stage.key ↔ ∃ w, d.waiting.find? key = some w ∧ d.isDue now w := by
  rw [List.mem_map]
  constructor
  · rintro ⟨s, hs, rfl⟩
    obtain ⟨w, hw, hdue, -⟩ := (mem_due_iff hd hk).1 hs
    exact ⟨w, hw, hdue⟩
  · rintro ⟨w, hw, hdue⟩
    obtain rfl : key = w.stage.key := hk _ (Dict.mem_of_find?_eq_some hw)
    exact ⟨w.stage, (mem_due_iff hd hk).2 ⟨w, hw, hdue, rfl⟩, rfl⟩

/-- Every key is taken out at most once. -/
theorem nodup_keys_due (hd : d.waiting.Sorted) (hk : d.Keyed) :
    ((d.due now).map Stage.key).Nodup := by
  have hkeys : (d.due now).map Stage.key =
      (d.waiting.filter fun e ↦ d.isDue now e.2).map Prod.fst := by
    rw [due, List.map_map]
    refine List.map_congr_left ?_
    intro e he
    exact (hk e (List.mem_filter.1 he).1).symm
  rw [hkeys, List.Nodup, List.pairwise_map]
  exact List.Pairwise.imp (fun h ↦ String.ne_of_lt h) (hd.filter fun e ↦ d.isDue now e.2)

/-- The keys that are taken out are those that no longer wait. -/
theorem find?_drain (hd : d.waiting.Sorted) (hk : d.Keyed) :
    (d.drain now).2.waiting.find? key =
      if key ∈ (d.drain now).1.map Stage.key then none else d.waiting.find? key := by
  rw [drain, hd.find?_filter]
  simp only [mem_keys_due_iff hd hk]
  cases hw : d.waiting.find? key with
  | none => simp
  | some w => cases hdue : d.isDue now w <;> simp [hdue]

end Drains

/-! ## Runs -/

/-- The stages that wait are those with changes that have not been taken out, and each of them waits
since the first of these changes, with the payload of the latest. -/
structure Timeline.Faithful (debounce force : Nat) (x : Timeline) : Prop where
  windows : x.debouncer.debounce = debounce ∧ x.debouncer.force = force
  sorted : x.debouncer.waiting.Sorted
  keyed : x.debouncer.Keyed
  waits : ∀ key, x.debouncer.waiting.find? key = waitingOf debounce (changes key x.past)
  ordered : ∀ key, (changes key x.past).Pairwise fun c c' ↦ c.1 ≤ c'.1
  passed : ∀ key, ∀ c ∈ changes key x.past, c.1 ≤ x.now

namespace Timeline.Faithful

variable {debounce force : Nat} {x : Timeline} {s : Stage} {key : String}

theorem start (debounce force now : Nat) :
    (Timeline.start debounce force now).Faithful debounce force where
  windows := ⟨rfl, rfl⟩
  sorted := Dict.sorted_nil
  keyed _ he := nomatch he
  waits _ := rfl
  ordered _ := .nil
  passed _ _ hc := nomatch hc

theorem update (h : x.Faithful debounce force) (s : Stage) :
    (x.act (.update s)).Faithful debounce force where
  windows := h.windows
  sorted := h.sorted.insert _ _
  keyed := h.keyed.update
  waits key := by
    simp only [act, Debouncer.update, changes_concat, Event.collect, Dict.find?_insert]
    by_cases hkey : s.key = key
    · subst hkey
      rw [if_pos rfl, if_pos rfl, waitingOf_concat, h.waits, h.windows.1]
    · rw [if_neg hkey, if_neg (Ne.symm hkey)]
      exact h.waits key
  ordered key := by
    simp only [act, changes_concat, Event.collect]
    split
    · rw [List.pairwise_append]
      refine ⟨h.ordered key, List.pairwise_singleton _ _, ?_⟩
      intro c hc c' hc'
      rw [List.mem_singleton.1 hc']
      exact h.passed key c hc
    · exact h.ordered key
  passed key c hc := by
    simp only [act, changes_concat, Event.collect] at hc
    split at hc
    · rcases List.mem_append.1 hc with hc | hc
      · exact h.passed key c hc
      · rw [List.mem_singleton.1 hc]
        exact Nat.le_refl x.now
    · exact h.passed key c hc

theorem pass (h : x.Faithful debounce force) (millis : Nat) :
    (x.act (.pass millis)).Faithful debounce force where
  windows := h.windows
  sorted := h.sorted
  keyed := h.keyed
  waits := h.waits
  ordered := h.ordered
  passed key c hc := Nat.le_add_right_of_le (h.passed key c hc)

/-- A key is taken out of what has changed exactly if it is taken out of what waits. -/
theorem changes_drain (x : Timeline) (key : String) :
    changes key (x.act .drain).past =
      if key ∈ (x.debouncer.drain x.now).1.map Stage.key then [] else changes key x.past := by
  simp [act, changes_concat, Event.collect, Event.takes]

theorem drain (h : x.Faithful debounce force) : (x.act .drain).Faithful debounce force where
  windows := h.windows
  sorted := h.sorted.filter _
  keyed := h.keyed.drain
  waits key := by
    rw [changes_drain]
    refine (find?_drain h.sorted h.keyed).trans ?_
    split
    · rfl
    · exact h.waits key
  ordered key := by
    rw [changes_drain]
    split
    · exact .nil
    · exact h.ordered key
  passed key c hc := by
    rw [changes_drain] at hc
    split at hc
    · cases hc
    · exact h.passed key c hc

/-- Whatever is done to a debouncer keeps it faithful. -/
theorem act (h : x.Faithful debounce force) (a : Act) : (x.act a).Faithful debounce force := by
  cases a with
  | update s => exact h.update s
  | pass millis => exact h.pass millis
  | drain => exact h.drain

theorem run (h : x.Faithful debounce force) (acts : List Act) :
    (x.run acts).Faithful debounce force := by
  induction acts generalizing x with
  | nil => exact h
  | cons a acts ih => exact ih (h.act a)

/-- The stages that are taken out. -/
theorem mem_drain_iff (h : x.Faithful debounce force) : s ∈ (x.debouncer.drain x.now).1 ↔
    ∃ first last, (changes s.key x.past).head? = some first ∧
      (changes s.key x.past).getLast? = some last ∧ s = last.2 ∧
      (last.1 + debounce < x.now ∨ force < x.now - first.1) := by
  refine (mem_due_iff h.sorted h.keyed).trans ?_
  simp only [h.waits, waitingOf_eq_some_iff]
  constructor
  · rintro ⟨w, ⟨first, last, hfirst, hlast, rfl⟩, hdue, rfl⟩
    exact ⟨first, last, hfirst, hlast, rfl, by simpa [isDue, h.windows.2] using hdue⟩
  · rintro ⟨first, last, hfirst, hlast, hs, hdue⟩
    exact ⟨_, ⟨first, last, hfirst, hlast, rfl⟩, by simpa [isDue, h.windows.2] using hdue, hs.symm⟩

/-- A key with a change from before the force window is taken out. -/
theorem exists_mem_drain (h : x.Faithful debounce force) {c : Nat × Stage}
    (hc : c ∈ changes key x.past) (htime : c.1 + force < x.now) :
    ∃ s ∈ (x.debouncer.drain x.now).1, s.key = key := by
  have hne : changes key x.past ≠ [] := List.ne_nil_of_mem hc
  obtain ⟨first, rest, hfirst⟩ := List.exists_cons_of_ne_nil hne
  have hlast := List.getLast?_eq_some_getLast hne
  have hkey : ((changes key x.past).getLast hne).2.key = key :=
    ((updated_mem_of_mem_foldl_collect (List.getLast_mem hne)).resolve_left nofun).2
  have hle : first.1 ≤ c.1 := by
    have hordered := h.ordered key
    rw [hfirst] at hc hordered
    rcases List.mem_cons.1 hc with rfl | hc
    · exact Nat.le_refl _
    · exact List.rel_of_pairwise_cons hordered hc
  refine ⟨((changes key x.past).getLast hne).2, h.mem_drain_iff.2 ?_, hkey⟩
  rw [hkey]
  exact ⟨first, _, by rw [hfirst]; rfl, hlast, rfl, .inr (by omega)⟩

end Timeline.Faithful

/-! ## The past of a run -/

/-- What comes before an event in a list stays before it when the list grows. -/
theorem eq_or_exists_of_concat_eq {past before after : List Event} {e e' : Event}
    (h : past ++ [e] = before ++ e' :: after) :
    past = before ∧ e = e' ∨ ∃ rest, past = before ++ e' :: rest := by
  rcases List.eq_nil_or_concat after with rfl | ⟨rest, f, rfl⟩
  · obtain ⟨hpast, he⟩ := List.append_inj' h rfl
    exact .inl ⟨hpast, List.singleton_inj.1 he⟩
  · rw [List.concat_eq_append, ← List.cons_append, ← List.append_assoc] at h
    exact .inr ⟨rest, (List.append_inj' h rfl).1⟩

/-- Every drain of the past took out what a faithful debouncer had due. -/
theorem exists_faithful_of_drained {debounce force start : Nat} {acts : List Act}
    {before after : List Event} {time : Nat} {stages : List Stage}
    (h : ((Timeline.start debounce force start).run acts).past =
      before ++ .drained time stages :: after) :
    ∃ y : Timeline, y.Faithful debounce force ∧ y.past = before ∧ y.now = time ∧
      (y.debouncer.drain y.now).1 = stages := by
  induction acts using List.reverseRecOn generalizing after with
  | nil =>
    have hnil : ([] : List Event) = before ++ .drained time stages :: after := h
    simp at hnil
  | append_singleton acts a ih =>
    rw [Timeline.run, List.foldl_append] at h
    cases a with
    | pass millis => exact ih h
    | update s =>
      rcases eq_or_exists_of_concat_eq h with ⟨-, he⟩ | ⟨rest, hrest⟩
      · cases he
      · exact ih hrest
    | drain =>
      rcases eq_or_exists_of_concat_eq h with ⟨hpast, he⟩ | ⟨rest, hrest⟩
      · obtain ⟨htime, hstages⟩ := Event.drained.inj he
        exact ⟨_, (Timeline.Faithful.start debounce force start).run acts, hpast, htime, hstages⟩
      · exact ih hrest

/-- Among the events after a change, the one that takes it out: the first that takes out its key. -/
def TakenBy (key : String) (after : List Event) (n : Nat) : Prop :=
  (∃ e, after[n]? = some e ∧ e.takes key) ∧
    ∀ m < n, ∀ e, after[m]? = some e → e.takes key = false

theorem existsUnique_takenBy {key : String} {after : List Event} (h : ∃ e ∈ after, e.takes key) :
    ∃! n, TakenBy key after n := by
  classical
  have hex : ∃ n : Nat, ∃ e : Event, after[n]? = some e ∧ e.takes key := by
    obtain ⟨e, he, hkey⟩ := h
    obtain ⟨n, hn⟩ := List.mem_iff_getElem?.1 he
    exact ⟨n, e, hn, hkey⟩
  refine ⟨Nat.find hex, ⟨Nat.find_spec hex, fun m hm e he ↦ ?_⟩, ?_⟩
  · exact Bool.eq_false_iff.2 fun hkey ↦ Nat.find_min hex hm ⟨e, he, hkey⟩
  · rintro m ⟨htaken, hfirst⟩
    refine Nat.le_antisymm ?_ (Nat.find_min' hex htaken)
    rw [← Nat.not_lt]
    intro hlt
    obtain ⟨e, he, hkey⟩ := Nat.find_spec hex
    rw [hfirst _ hlt e he] at hkey
    cases hkey

/-- A drain takes out the stages that have changed since they were last taken out and that have been
left alone or have waited for long enough, each once and with the payload of its latest change, and
nothing else. So in every run each change is taken out by one drain or still waits, no stage is taken
out twice without a change in between, and none waits beyond the force window. -/
theorem debounce_law (debounce force start : Nat) (acts : List Act) :
    let x := (Timeline.start debounce force start).run acts
    let due := (x.debouncer.drain x.now).1
    let rest := (x.debouncer.drain x.now).2
    (∀ s, s ∈ due ↔ ∃ first last, (changes s.key x.past).head? = some first ∧
      (changes s.key x.past).getLast? = some last ∧ s = last.2 ∧
      (last.1 + debounce < x.now ∨ force < x.now - first.1)) ∧
    (due.map Stage.key).Nodup ∧
    (∀ key, rest.waiting.find? key =
      if key ∈ due.map Stage.key then none else x.debouncer.waiting.find? key) ∧
    (∀ before time s after, x.past = before ++ .updated time s :: after →
      (∃! n, TakenBy s.key after n) ∨
        (∀ e ∈ after, e.takes s.key = false) ∧ (x.debouncer.waiting.find? s.key).isSome) ∧
    (∀ before time stages between time' stages' after key,
      x.past = before ++ .drained time stages :: (between ++ .drained time' stages' :: after) →
      key ∈ stages.map Stage.key → key ∈ stages'.map Stage.key →
      ∃ time s, .updated time s ∈ between ∧ s.key = key) ∧
    (∀ before time s between time' stages after,
      x.past = before ++ .updated time s :: (between ++ .drained time' stages :: after) →
      time + force < time' → (∀ e ∈ between, e.takes s.key = false) →
      s.key ∈ stages.map Stage.key) := by
  intro x due rest
  have hx : x.Faithful debounce force := (Timeline.Faithful.start debounce force start).run acts
  refine ⟨fun s ↦ hx.mem_drain_iff, nodup_keys_due hx.sorted hx.keyed,
    fun key ↦ find?_drain hx.sorted hx.keyed, ?_, ?_, ?_⟩
  · intro before time s after hpast
    by_cases htaken : ∃ e ∈ after, e.takes s.key
    · exact .inl (existsUnique_takenBy htaken)
    · have hafter : ∀ e ∈ after, e.takes s.key = false := by simpa using htaken
      have hmem : (time, s) ∈ changes s.key x.past := by
        rw [hpast]
        exact mem_changes_of_not_takes hafter
      refine .inr ⟨hafter, ?_⟩
      rw [hx.waits, isSome_waitingOf (List.ne_nil_of_mem hmem)]
  · intro before time stages between time' stages' after key hpast hkey hkey'
    rw [← List.cons_append, ← List.append_assoc] at hpast
    obtain ⟨y, hy, hbefore, -, rfl⟩ := exists_faithful_of_drained hpast
    obtain ⟨s, hs, rfl⟩ := List.mem_map.1 hkey'
    obtain ⟨first, -, hfirst, -, -, -⟩ := hy.mem_drain_iff.1 hs
    have htakes : (Event.drained time stages).takes s.key := by
      simpa [Event.takes] using hkey
    rw [hbefore, changes_of_takes htakes] at hfirst
    have hmem := updated_mem_of_mem_foldl_collect (List.mem_of_head? hfirst)
    exact ⟨first.1, first.2, hmem.resolve_left nofun⟩
  · intro before time s between time' stages after hpast htime hbetween
    rw [← List.cons_append, ← List.append_assoc] at hpast
    obtain ⟨y, hy, hbefore, rfl, rfl⟩ := exists_faithful_of_drained hpast
    have hmem : (time, s) ∈ changes s.key y.past := by
      rw [hbefore]
      exact mem_changes_of_not_takes hbetween
    exact List.mem_map.2 (hy.exists_mem_drain hmem htime)

end Debouncer

end StageRelay
