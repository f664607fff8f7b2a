import StageRelay.Index.Directory
import StageRelay.Proofs.Index.Invariant
import StageRelay.Proofs.Store

/-!
# What a directory holds

An object is tracked in the index of its stage, and there only. So a directory is seen through one
function, which tells what is tracked for an object, and storing or withdrawing a certificate changes
this function at one object.
-/

namespace StageRelay

/-! ## Certificates in an index -/

/-- What is tracked for a certificate: nothing without names or with an encrypted key. -/
def Certificate.tracked? (c : Certificate) : Option Tracked :=
  if c.isKeyEncrypted then none
  else
    match c.sniSet with
    | .ok (n :: ns) => some ⟨c, n :: ns⟩
    | _ => none

theorem Certificate.tracked?_eq_some_iff {c : Certificate} {t : Tracked} :
    c.tracked? = some t ↔
      t.certificate = c ∧ c.isKeyEncrypted = false ∧ c.sniSet = .ok t.snis ∧ t.snis ≠ [] := by
  obtain ⟨certificate, snis⟩ := t
  unfold tracked?
  cases hk : c.isKeyEncrypted with
  | true => simp
  | false =>
    rcases hs : c.sniSet with e | (- | ⟨n, ns⟩)
    · simp
    · simp
    · simp only [Bool.false_eq_true, if_false, Option.some.injEq, Tracked.mk.injEq, true_and,
        Except.ok.injEq, eq_comm (a := certificate)]
      refine and_congr_right fun _ ↦ ⟨?_, And.left⟩
      rintro rfl
      exact ⟨rfl, List.cons_ne_nil n ns⟩

namespace CertificateIndex

theorem find?_tracked_insert {x : CertificateIndex} {key : ResourceKey} {c : Certificate}
    {changed : Bool} (h : (x.insert key c).1 = .ok changed) (k : Identity) :
    (x.insert key c).2.tracked.find? k =
      if k = key.identity then c.tracked? else x.tracked.find? k := by
  unfold insert at h ⊢
  unfold Certificate.tracked?
  split
  · exact x.find?_tracked_untrack key.identity k
  · next hkey =>
    rw [if_neg hkey] at h
    rcases hs : c.sniSet with e | (- | ⟨n, ns⟩)
    · rw [hs] at h
      cases h
    · exact x.find?_tracked_untrack key.identity k
    · exact x.find?_tracked_track key.identity ⟨c, n :: ns⟩ k

theorem find?_tracked_erase (x : CertificateIndex) (key : ResourceKey) (k : Identity) :
    (x.erase key).2.tracked.find? k =
      if k = key.identity then none else x.tracked.find? k :=
  x.find?_tracked_untrack key.identity k

/-- Storing a certificate that is served tells whether another one was served before. -/
theorem insert_tells (x : CertificateIndex) (key : ResourceKey) {c : Certificate} {t : Tracked}
    (ht : c.tracked? = some t) :
    (x.insert key c).1 = .ok (decide (x.tracked.find? key.identity ≠ some t)) := by
  obtain ⟨certificate, snis⟩ := t
  obtain ⟨rfl, hkey, hs, hne⟩ := Certificate.tracked?_eq_some_iff.1 ht
  simp only at hkey hs hne
  rw [insert, if_neg (by simp [hkey]), hs]
  cases snis with
  | nil => exact absurd rfl hne
  | cons n ns => rfl

/-- Withdrawing a certificate tells whether one was served before. -/
theorem erase_tells (x : CertificateIndex) (key : ResourceKey) :
    (x.erase key).1 = (x.tracked.find? key.identity).isSome := by
  rw [erase, untrack]
  cases x.tracked.find? key.identity <;> rfl

end CertificateIndex

/-! ## Directories -/

/-- The stage that an object belongs to. -/
def Identity.owner (k : Identity) : Stage :=
  { gateway := k.gateway, name := k.stage }

@[simp] theorem ResourceKey.owner_identity_same (key : ResourceKey) :
    key.identity.owner.same key.stage :=
  Stage.same_iff.2 ⟨rfl, rfl⟩

namespace IndexDirectory

variable {d : IndexDirectory} {s t : Stage} {k : Identity} {x : CertificateIndex}

/-- Whether two stages have the same index. -/
def Together : IndexDirectory → Stage → Stage → Prop
  | shared _, _, _ => True
  | perStage _, s, t => s.key = t.key

theorem together_of_same (d : IndexDirectory) (h : s.same t) : d.Together s t := by
  cases d with
  | shared x => trivial
  | perStage xs => exact Stage.key_of_same h

theorem Together.get_eq (h : d.Together s t) : d.get s = d.get t := by
  cases d with
  | shared x => rfl
  | perStage xs =>
    have h : s.key = t.key := h
    simp only [get, h]

@[simp] theorem together_set {u v : Stage} : (d.set s x).Together u v ↔ d.Together u v := by
  cases d <;> rfl

theorem get_set_of_together (h : d.Together t s) : (d.set s x).get t = x := by
  cases d with
  | shared y => rfl
  | perStage xs =>
    have h : t.key = s.key := h
    simp [set, get, h]

theorem get_set_of_not_together (h : ¬ d.Together t s) : (d.set s x).get t = d.get t := by
  cases d with
  | shared y => exact absurd trivial h
  | perStage xs =>
    have h : ¬ t.key = s.key := h
    simp [set, get, h]

/-- What is tracked for an object, in the index of its stage. -/
def lookup? (d : IndexDirectory) (k : Identity) : Option Tracked :=
  (d.get k.owner).tracked.find? k

/-- Objects are tracked in the indices of their stages only. -/
def Proper (d : IndexDirectory) : Prop :=
  ∀ (s : Stage) (k : Identity) (t : Tracked), s.Plain → (d.get s).tracked.find? k = some t →
    d.Together s k.owner ∧ k.owner.Plain

theorem proper_empty (perStage : Bool) : (empty perStage).Proper := by
  intro s k t _ h
  cases perStage <;> cases h

@[simp] theorem lookup?_empty (perStage : Bool) (k : Identity) :
    (empty perStage).lookup? k = none := by
  cases perStage <;> rfl

/-- What an index of a proper directory tracks. -/
theorem Proper.find?_eq_some_iff (h : d.Proper) (hs : s.Plain) {t : Tracked} :
    (d.get s).tracked.find? k = some t ↔
      d.Together s k.owner ∧ k.owner.Plain ∧ d.lookup? k = some t := by
  constructor
  · intro ht
    obtain ⟨hsk, hk⟩ := h s k t hs ht
    exact ⟨hsk, hk, by rw [lookup?, ← hsk.get_eq, ht]⟩
  · rintro ⟨hsk, -, ht⟩
    rw [hsk.get_eq]
    exact ht

section Set

variable {v : Option Tracked} (hk : k.owner.same s)
  (hx : ∀ k', x.tracked.find? k' = if k' = k then v else (d.get s).tracked.find? k')
include hk hx

/-- An index that changes at an object of its stage changes the directory at that object. -/
theorem lookup?_set (k' : Identity) : (d.set s x).lookup? k' = if k' = k then v else d.lookup? k' := by
  by_cases h : d.Together k'.owner s
  · rw [lookup?, get_set_of_together h, hx, lookup?, h.get_eq]
  · rw [lookup?, get_set_of_not_together h, if_neg, lookup?]
    rintro rfl
    exact h (d.together_of_same hk)

theorem Proper.set (h : d.Proper) (hs : s.Plain) : (d.set s x).Proper := by
  intro u k' t hu ht
  rw [together_set]
  by_cases hus : d.Together u s
  · rw [get_set_of_together hus, hx] at ht
    split at ht
    · next hkk =>
      subst hkk
      have hplain : k'.owner.Plain := hs.of_same (Stage.same_comm.1 hk)
      refine ⟨?_, hplain⟩
      cases d with
      | shared y => trivial
      | perStage xs => exact Eq.trans hus (Stage.key_of_same (Stage.same_comm.1 hk))
    · rw [← hus.get_eq] at ht
      exact h u k' t hu ht
  · rw [get_set_of_not_together hus] at ht
    exact h u k' t hu ht

end Set

/-- What is tracked for an object is tracked in the index of its stage. -/
theorem find?_tracked_get (d : IndexDirectory) (hk : k.owner.same s) :
    (d.get s).tracked.find? k = d.lookup? k := by
  rw [lookup?, (d.together_of_same hk).get_eq]

@[simp] theorem lookup?_touch (d : IndexDirectory) (s : Stage) (k : Identity) :
    (d.touch s).lookup? k = d.lookup? k := by
  unfold touch lookup?
  by_cases h : d.Together k.owner s
  · rw [get_set_of_together h, h.get_eq]
  · rw [get_set_of_not_together h]

theorem Proper.touch (h : d.Proper) (s : Stage) : (d.touch s).Proper := by
  intro u k t hu ht
  rw [IndexDirectory.touch, together_set]
  unfold IndexDirectory.touch at ht
  by_cases hus : d.Together u s
  · rw [get_set_of_together hus, ← hus.get_eq] at ht
    exact h u k t hu ht
  · rw [get_set_of_not_together hus] at ht
    exact h u k t hu ht

/-- An index is kept or made anew. -/
theorem get_prune (d : IndexDirectory) (existing : List Stage) (s : Stage) :
    (d.prune existing).get s = d.get s ∨ (d.prune existing).get s = {} := by
  cases d with
  | shared x => exact .inl rfl
  | perStage xs =>
    simp only [prune, get, Dict.find?_filter_key]
    split
    · exact .inl rfl
    · exact .inr rfl

theorem get_prune_of_mem {existing : List Stage} (hs : s.key ∈ existing.map Stage.key) :
    (d.prune existing).get s = d.get s := by
  cases d with
  | shared x => rfl
  | perStage xs =>
    rw [prune, get, get, Dict.find?_filter_key, if_pos (List.contains_iff_mem.2 hs)]

/-- What is tracked for the objects of a stage that exists stays. -/
theorem lookup?_prune {existing : List Stage} (hk : k.owner.key ∈ existing.map Stage.key) :
    (d.prune existing).lookup? k = d.lookup? k := by
  rw [lookup?, lookup?, get_prune_of_mem hk]

theorem Proper.prune (h : d.Proper) (existing : List Stage) : (d.prune existing).Proper := by
  intro s k t hs ht
  rcases d.get_prune existing s with hget | hget
  · rw [hget] at ht
    refine (h s k t hs ht).imp_left ?_
    cases d <;> exact id
  · rw [hget] at ht
    cases ht

end IndexDirectory

end StageRelay
