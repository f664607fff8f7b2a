import StageRelay.Proofs.Assoc
import StageRelay.Proofs.Dict
import StageRelay.Registry.Store

/-!
# What a store holds

The text of a stage tells its names if the name of the stage has no slash. In a store of such stages
each resource stands at its own place, so that what is looked up is what is listed.
-/

namespace StageRelay

/-! ## Stages -/

namespace Stage

/-- A stage whose key tells its names: there is no slash in the name of the stage. -/
def Plain (s : Stage) : Prop :=
  '/' ∉ s.name.toList

instance (s : Stage) : Decidable s.Plain :=
  inferInstanceAs (Decidable ('/' ∉ s.name.toList))

theorem same_iff {s t : Stage} : s.same t ↔ s.gateway = t.gateway ∧ s.name = t.name := by
  simp [same]

@[simp] theorem same_refl (s : Stage) : s.same s :=
  same_iff.2 ⟨rfl, rfl⟩

theorem same_comm {s t : Stage} : s.same t ↔ t.same s := by
  rw [same_iff, same_iff, eq_comm, eq_comm (a := s.name)]

theorem same_trans {s t u : Stage} (h : s.same t) (h' : t.same u) : s.same u := by
  rw [same_iff] at *
  exact ⟨h.1.trans h'.1, h.2.trans h'.2⟩

theorem key_of_same {s t : Stage} (h : s.same t) : s.key = t.key := by
  obtain ⟨hg, hn⟩ := same_iff.1 h
  rw [key, key, hg, hn]

/-- What stands before the last slash of a text, and what stands after it. -/
theorem split_unique {g h m n : List Char} (hm : '/' ∉ m) (hn : '/' ∉ n)
    (heq : g ++ '/' :: m = h ++ '/' :: n) : g = h ∧ m = n := by
  rcases List.append_eq_append_iff.1 heq with ⟨d, hh, hd⟩ | ⟨d, hg, hd⟩
  · cases d with
    | nil => exact ⟨by simpa using hh.symm, by simpa using hd⟩
    | cons c d =>
      obtain ⟨-, rfl⟩ := List.cons.inj hd
      exact absurd (by simp) hm
  · cases d with
    | nil => exact ⟨by simpa using hg, by simpa using hd.symm⟩
    | cons c d =>
      obtain ⟨-, rfl⟩ := List.cons.inj hd
      exact absurd (by simp) hn

theorem Plain.same_of_key {s t : Stage} (hs : s.Plain) (ht : t.Plain) (h : s.key = t.key) :
    s.same t := by
  have h : s.gateway.toList ++ '/' :: s.name.toList = t.gateway.toList ++ '/' :: t.name.toList := by
    simpa [key] using congrArg String.toList h
  obtain ⟨hg, hn⟩ := split_unique hs ht h
  exact same_iff.2 ⟨String.toList_inj.1 hg, String.toList_inj.1 hn⟩

theorem Plain.of_same {s t : Stage} (hs : s.Plain) (h : s.same t) : t.Plain := by
  rw [Plain, ← (same_iff.1 h).2]
  exact hs

end Stage

/-! ## Stores -/

namespace Store

variable {st : Store} {kind kind' : Kind} {key key' : ResourceKey} {r r' : Resource} {s : Stage}

/-- All resources. -/
def resources (st : Store) : List Resource :=
  st.entries.map Prod.snd

@[simp] theorem get?_put : (st.put r).get? kind key =
    if StoreKey.of kind key = .of r.kind r.key then some r else st.get? kind key := by
  simp [get?, put]

@[simp] theorem get?_remove : (st.remove kind' key').get? kind key =
    if StoreKey.of kind key = .of kind' key' then none else st.get? kind key := by
  simp [get?, remove]

theorem get?_of_same {t : Stage} (h : s.same t) (kind : Kind) (name : String) :
    st.get? kind ⟨s, name⟩ = st.get? kind ⟨t, name⟩ := by
  rw [get?, get?, StoreKey.of, StoreKey.of, Stage.key_of_same h]

/-- Every resource of a plain stage stands at its place. -/
structure Keyed (st : Store) : Prop where
  distinct : st.entries.Distinct
  place : ∀ {k r}, (k, r) ∈ st.entries → k = .of r.kind r.key ∧ r.stage.Plain

namespace Keyed

theorem empty : Keyed {} := ⟨Assoc.distinct_nil, by simp⟩

theorem put (h : st.Keyed) (hr : r.stage.Plain) : (st.put r).Keyed where
  distinct := h.distinct.insert _ r
  place he := by
    rcases Assoc.mem_of_mem_insert he with he | he
    · obtain ⟨rfl, rfl⟩ := Prod.mk.inj he
      exact ⟨rfl, hr⟩
    · exact h.place he

theorem remove (h : st.Keyed) (kind : Kind) (key : ResourceKey) : (st.remove kind key).Keyed where
  distinct := h.distinct.erase _
  place he := h.place ((Assoc.erase_sublist _ _).subset he)

theorem plain_of_mem (h : st.Keyed) (hr : r ∈ st.resources) : r.stage.Plain := by
  obtain ⟨e, he, rfl⟩ := List.mem_map.1 hr
  exact (h.place he).2

theorem get?_of_mem (h : st.Keyed) (hr : r ∈ st.resources) : st.get? r.kind r.key = some r := by
  obtain ⟨⟨k, r⟩, he, rfl⟩ := List.mem_map.1 hr
  obtain ⟨rfl, -⟩ := h.place he
  exact h.distinct.find?_eq_some_iff.2 he

/-- What is looked up is there, under the names that it is looked up with. -/
theorem mem_of_get? (h : st.Keyed) (hkey : key.stage.Plain) (hr : st.get? kind key = some r) :
    r ∈ st.resources ∧ r.kind = kind ∧ r.stage.same key.stage ∧ r.name = key.name := by
  have he := h.distinct.find?_eq_some_iff.1 hr
  obtain ⟨hplace, hplain⟩ := h.place he
  obtain ⟨hkind, hstage, hname⟩ := StoreKey.mk.inj hplace
  exact ⟨List.mem_map_of_mem he, hkind.symm, hplain.same_of_key hkey hstage.symm, hname.symm⟩

end Keyed

/-- Places are the same if kinds and names are. -/
theorem of_eq_of_iff (hs : key.stage.Plain) (ht : key'.stage.Plain) :
    StoreKey.of kind key = .of kind' key' ↔
      kind = kind' ∧ key.stage.same key'.stage ∧ key.name = key'.name := by
  simp only [StoreKey.of, StoreKey.mk.injEq]
  exact and_congr_right fun _ ↦ and_congr_left fun _ ↦ ⟨hs.same_of_key ht, Stage.key_of_same⟩

/-! ## Lists -/

theorem mem_list : r ∈ st.list kind s ↔ r ∈ st.resources ∧ r.kind = kind ∧ r.stage.same s := by
  simp [list, resources]

/-- What is listed is what is looked up. -/
theorem Keyed.get?_of_mem_list (h : st.Keyed) (hr : r ∈ st.list kind s) :
    st.get? kind ⟨s, r.name⟩ = some r := by
  obtain ⟨hmem, rfl, hsame⟩ := mem_list.1 hr
  rw [← get?_of_same hsame]
  exact h.get?_of_mem hmem

theorem Keyed.mem_list_of_get? (h : st.Keyed) (hs : s.Plain) {name : String}
    (hr : st.get? kind ⟨s, name⟩ = some r) : r ∈ st.list kind s ∧ r.name = name := by
  obtain ⟨hmem, hkind, hsame, hname⟩ := h.mem_of_get? hs hr
  exact ⟨mem_list.2 ⟨hmem, hkind, hsame⟩, hname⟩

theorem Keyed.find?_list (h : st.Keyed) (hs : s.Plain) (kind : Kind) (name : String) :
    ((st.list kind s).find? fun r ↦ r.name = name) = st.get? kind ⟨s, name⟩ := by
  cases hfind : (st.list kind s).find? fun r ↦ r.name = name with
  | some r =>
    have hname : r.name = name := by simpa using List.find?_some hfind
    exact (hname ▸ h.get?_of_mem_list (List.mem_of_find?_eq_some hfind)).symm
  | none =>
    refine (Option.eq_none_iff_forall_ne_some.2 fun r hr ↦ ?_).symm
    obtain ⟨hmem, hname⟩ := h.mem_list_of_get? hs hr
    exact List.find?_eq_none.1 hfind r hmem (decide_eq_true hname)

/-- A resource that is put is not listed elsewhere. -/
theorem Keyed.list_put (h : st.Keyed) (hr : r.stage.Plain)
    (hne : r.kind = kind → ¬ r.stage.same s) : (st.put r).list kind s = st.list kind s := by
  unfold list Store.put
  congr 1
  refine Assoc.filter_insert ?_ ?_
  · simpa using hne
  · intro c hc
    obtain ⟨hplace, hplain⟩ := h.place hc
    obtain ⟨hkind, hstage, -⟩ := (of_eq_of_iff hr hplain).1 hplace
    refine Bool.eq_false_iff.2 ?_
    intro hp
    rw [Bool.and_eq_true, decide_eq_true_eq] at hp
    exact hne (hkind.trans hp.1) (Stage.same_trans hstage hp.2)

theorem Keyed.list_remove (h : st.Keyed) (hkey : key.stage.Plain)
    (hne : kind' = kind → ¬ key.stage.same s) :
    (st.remove kind' key).list kind s = st.list kind s := by
  unfold list Store.remove
  congr 1
  refine Assoc.filter_erase ?_
  intro c hc
  obtain ⟨hplace, hplain⟩ := h.place hc
  obtain ⟨hkind, hstage, -⟩ := (of_eq_of_iff hkey hplain).1 hplace
  refine Bool.eq_false_iff.2 ?_
  intro hp
  rw [Bool.and_eq_true, decide_eq_true_eq] at hp
  exact hne (hkind.trans hp.1) (Stage.same_trans hstage hp.2)

/-! ## Stages of a store -/

/-- The stages of stage objects are listed, one for each text. -/
theorem exists_mem_stages (hr : r ∈ st.resources) (hk : r.kind = .stage) :
    ∃ t ∈ st.stages, t.key = r.stage.key := by
  have hsome : ((Dict.ofEntries (((st.entries.map Prod.snd).filter fun r ↦ r.kind = .stage).map
      fun r ↦ (r.stage.key, r.stage))).find? r.stage.key).isSome := by
    refine Dict.isSome_find?_ofEntries (a := r.stage) (List.mem_map.2 ⟨r, ?_, rfl⟩)
    exact List.mem_filter.2 ⟨hr, by simpa using hk⟩
  obtain ⟨t, ht⟩ := Option.isSome_iff_exists.1 hsome
  have hmem := Dict.mem_of_find?_eq_some ht
  refine ⟨t, List.mem_map_of_mem (f := Prod.snd) hmem, ?_⟩
  obtain ⟨r', -, heq⟩ := List.mem_map.1 (Dict.mem_of_mem_ofEntries hmem)
  obtain ⟨hkey, rfl⟩ := Prod.mk.inj heq
  exact hkey

theorem exists_of_mem_stages (hs : s ∈ st.stages) :
    ∃ r ∈ st.resources, r.kind = .stage ∧ r.stage = s := by
  obtain ⟨e, he, rfl⟩ := List.mem_map.1 hs
  obtain ⟨r, hr, rfl⟩ := List.mem_map.1 (Dict.mem_of_mem_ofEntries he)
  obtain ⟨hmem, hkind⟩ := List.mem_filter.1 hr
  exact ⟨r, hmem, by simpa using hkind, rfl⟩

theorem Keyed.exists_mem_stages (h : st.Keyed) (hr : r ∈ st.resources) (hk : r.kind = .stage) :
    ∃ t ∈ st.stages, t.same r.stage := by
  obtain ⟨t, ht, hkey⟩ := Store.exists_mem_stages hr hk
  obtain ⟨r', hr', -, rfl⟩ := exists_of_mem_stages ht
  exact ⟨_, ht, (h.plain_of_mem hr').same_of_key (h.plain_of_mem hr) hkey⟩

end Store

end StageRelay
