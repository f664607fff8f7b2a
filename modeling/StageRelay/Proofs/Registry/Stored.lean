import StageRelay.Proofs.Registry.History
import StageRelay.Proofs.Store

/-!
# The registry as a map

A registry tells stages apart by their texts, so that it is a map from kinds, texts of stages and
names to the resources that were stored last. Different stages can have the same text: `a/b` with
`c`, and `a` with `b/c`. A resource of one of them takes the place of one of the other, while lists
go by the names of the stage. So the registry is a map from kinds, stages and names for exactly those
who ask about stages that have their texts to themselves.
-/

namespace StageRelay

/-! ## Texts of stages -/

namespace Stage

variable {s t : Stage}

/-- Whether two stages have the same text. -/
def sameText (s t : Stage) : Bool :=
  s.key == t.key

@[simp] theorem sameText_iff : s.sameText t ↔ s.key = t.key := by
  simp [sameText]

/-- A stage whose text has one slash only, the one between its names. -/
def Unmistakable (s : Stage) : Prop :=
  '/' ∉ s.gateway.toList ∧ '/' ∉ s.name.toList

theorem Unmistakable.of_same (hs : s.Unmistakable) (h : s.same t) : t.Unmistakable := by
  obtain ⟨hgateway, hname⟩ := same_iff.1 h
  rw [Unmistakable, ← hgateway, ← hname]
  exact hs

theorem toList_key (s : Stage) : s.key.toList = s.gateway.toList ++ '/' :: s.name.toList := by
  simp [key]

theorem Unmistakable.of_key (hs : s.Unmistakable) (h : t.key = s.key) : t.Unmistakable := by
  have hcount : (t.gateway.toList ++ '/' :: t.name.toList).count '/' =
      (s.gateway.toList ++ '/' :: s.name.toList).count '/' := by
    rw [← toList_key, ← toList_key, h]
  simp only [List.count_append, List.count_cons_self, List.count_eq_zero.2 hs.1,
    List.count_eq_zero.2 hs.2] at hcount
  exact ⟨List.count_eq_zero.1 (by omega), List.count_eq_zero.1 (by omega)⟩

theorem Unmistakable.same_of_key (hs : s.Unmistakable) (h : t.key = s.key) : t.same s :=
  Plain.same_of_key (hs.of_key h).2 hs.2 h

theorem exists_cut {x : String} (h : '/' ∈ x.toList) :
    ∃ g n : String, x = g ++ "/" ++ n ∧ x ≠ g ∧ x ≠ n := by
  obtain ⟨g, n, hsplit⟩ := List.append_of_mem h
  have hx : x = .ofList g ++ "/" ++ .ofList n := by
    rw [← String.toList_inj]
    simp [hsplit]
  refine ⟨.ofList g, .ofList n, hx, ?_, ?_⟩
  · intro heq
    simpa [hsplit] using congrArg (·.toList.length) heq
  · intro heq
    have hlength := congrArg (·.toList.length) heq
    simp [hsplit] at hlength
    omega

/-- A text with a second slash belongs to a second stage. -/
theorem exists_sameText (h : ¬ s.Unmistakable) : ∃ t : Stage, t.key = s.key ∧ ¬ t.same s := by
  rw [Unmistakable, not_and_or, not_not, not_not] at h
  rcases h with h | h
  · obtain ⟨g, n, hcut, hne, -⟩ := exists_cut h
    refine ⟨{ gateway := g, name := n ++ "/" ++ s.name }, ?_, ?_⟩
    · simp [key, hcut, String.append_assoc]
    · exact fun hsame ↦ hne (same_iff.1 hsame).1.symm
  · obtain ⟨g, n, hcut, -, hne⟩ := exists_cut h
    refine ⟨{ gateway := s.gateway ++ "/" ++ g, name := n }, ?_, ?_⟩
    · simp [key, hcut, String.append_assoc]
    · exact fun hsame ↦ hne (same_iff.1 hsame).2.symm

theorem Unmistakable.sameText_eq_same (hs : s.Unmistakable) : t.sameText s = t.same s := by
  rw [Bool.eq_iff_iff, sameText_iff]
  exact ⟨hs.same_of_key, key_of_same⟩

end Stage

/-! ## Places in a store -/

namespace Store

variable {st : Store} {kind : Kind} {key : ResourceKey} {r : Resource} {s : Stage}

/-- Every resource stands at its place. -/
structure Placed (st : Store) : Prop where
  distinct : st.entries.Distinct
  place : ∀ {k r}, (k, r) ∈ st.entries → k = .of r.kind r.key

theorem Keyed.placed (h : st.Keyed) : st.Placed :=
  ⟨h.distinct, fun he ↦ (h.place he).1⟩

namespace Placed

theorem empty : Placed {} := ⟨Assoc.distinct_nil, by simp⟩

theorem put (h : st.Placed) (r : Resource) : (st.put r).Placed where
  distinct := h.distinct.insert _ r
  place he := by
    rcases Assoc.mem_of_mem_insert he with he | he
    · obtain ⟨rfl, rfl⟩ := Prod.mk.inj he
      rfl
    · exact h.place he

theorem remove (h : st.Placed) (kind : Kind) (key : ResourceKey) :
    (st.remove kind key).Placed where
  distinct := h.distinct.erase _
  place he := h.place ((Assoc.erase_sublist _ _).subset he)

theorem mem_resources_iff (h : st.Placed) : r ∈ st.resources ↔ st.get? r.kind r.key = some r := by
  constructor
  · intro hr
    obtain ⟨⟨k, r⟩, he, rfl⟩ := List.mem_map.1 hr
    obtain rfl := h.place he
    exact h.distinct.find?_eq_some_iff.2 he
  · intro hr
    exact List.mem_map_of_mem (f := Prod.snd) (h.distinct.find?_eq_some_iff.1 hr)

/-- Of one kind and stage there is one resource of each name, and they are listed by name. -/
theorem list_pairwise (h : st.Placed) (kind : Kind) (s : Stage) :
    (st.list kind s).Pairwise (·.name < ·.name) := by
  have hne : (st.list kind s).Pairwise (·.name ≠ ·.name) := by
    refine ((List.mergeSort_perm _ _).pairwise_iff fun hab ↦ Ne.symm hab).2 ?_
    refine List.pairwise_filter.2 ?_
    refine List.pairwise_map.2 ((List.pairwise_map.1 h.distinct).imp_of_mem ?_)
    rintro ⟨k, a⟩ ⟨k', b⟩ ha hb hkeys hp hq (hname : a.name = b.name)
    simp only [Bool.and_eq_true, decide_eq_true_eq] at hp hq
    apply hkeys
    simp only [h.place ha, h.place hb, StoreKey.of, Resource.key, hname, hp.1, hq.1,
      Stage.key_of_same hp.2, Stage.key_of_same hq.2]
  have hle : (st.list kind s).Pairwise fun a b ↦ !decide (b.name < a.name) := by
    refine List.pairwise_mergeSort ?_ ?_ _
    · intro a b c hab hbc
      simp only [Bool.not_eq_true', decide_eq_false_iff_not, String.not_lt] at *
      exact String.le_trans hab hbc
    · intro a b
      simp only [Bool.or_eq_true, Bool.not_eq_true', decide_eq_false_iff_not, String.not_lt]
      exact String.le_total a.name b.name
  refine (hle.and hne).imp ?_
  rintro a b ⟨hab, hne⟩
  simp only [Bool.not_eq_true', decide_eq_false_iff_not, String.not_lt] at hab
  exact Std.lt_of_le_of_ne hab hne

end Placed

/-! ## Stages of a store -/

theorem stages_pairwise (st : Store) : st.stages.Pairwise (·.key < ·.key) := by
  refine List.pairwise_map.2 ((Dict.sorted_ofEntries _).imp_of_mem ?_)
  intro e f he hf hlt
  obtain ⟨a, -, rfl⟩ := List.mem_map.1 (Dict.mem_of_mem_ofEntries he)
  obtain ⟨b, -, rfl⟩ := List.mem_map.1 (Dict.mem_of_mem_ofEntries hf)
  exact hlt

end Store

namespace Registry

/-! ## What was stored last -/

/-- Whether two kinds and keys name one object, where `same` tells stages apart. -/
def SameObject (same : Stage → Stage → Bool) (kind kind' : Kind) (key key' : ResourceKey) : Prop :=
  kind = kind' ∧ same key.stage key'.stage ∧ key.name = key'.name

instance (same : Stage → Stage → Bool) (kind kind' : Kind) (key key' : ResourceKey) :
    Decidable (SameObject same kind kind' key key') :=
  inferInstanceAs (Decidable (_ ∧ _ ∧ _))

/-- The resource that was stored last under a kind and key and not removed since. -/
def lastStored? (same : Stage → Stage → Bool) (kind : Kind) (key : ResourceKey) :
    List Event → Option Resource
  | [] => none
  | .seeded r :: es | .put r :: es =>
    if SameObject same r.kind kind r.key key then some r else lastStored? same kind key es
  | .removed kind' key' _ :: es =>
    if SameObject same kind' kind key' key then none else lastStored? same kind key es
  | _ :: es => lastStored? same kind key es

variable {kind kind' : Kind} {key key' : ResourceKey}

theorem sameText_iff_of_eq_of : SameObject Stage.sameText kind kind' key key' ↔
    StoreKey.of kind' key' = .of kind key := by
  rw [SameObject, Stage.sameText_iff, StoreKey.of, StoreKey.of, StoreKey.mk.injEq]
  exact and_congr eq_comm (and_congr eq_comm eq_comm)

theorem remove_fst (reg : Registry) : (reg.remove kind key).1 = reg.store.get? kind key := by
  rw [remove]
  split <;> simp_all

@[simp] theorem get?_remove (reg : Registry) : (reg.remove kind key).2.store.get? kind' key' =
    if StoreKey.of kind' key' = .of kind key then none else reg.store.get? kind' key' := by
  rw [remove]
  split
  · next h =>
    split
    · next heq => rw [← h, Store.get?, Store.get?, heq]
    · rfl
  · simp

theorem remove_placed {reg : Registry} (h : reg.store.Placed) (kind : Kind) (key : ResourceKey) :
    (reg.remove kind key).2.store.Placed := by
  rw [remove]
  split
  · exact h
  · exact h.remove kind key

/-- A store holds under each kind, text of a stage and name what was stored there last. -/
structure Chronicle.Faithful (c : Chronicle) : Prop where
  placed : c.registry.store.Placed
  get? : ∀ kind key, c.registry.store.get? kind key =
    lastStored? Stage.sameText kind key c.events

namespace Chronicle

theorem Faithful.empty : Faithful {} := ⟨.empty, fun _ _ ↦ rfl⟩

theorem Faithful.seed {c : Chronicle} (h : c.Faithful) (r : Resource) : (c.seed r).Faithful where
  placed := h.placed.put r
  get? kind key := by
    simp only [Chronicle.seed, Store.get?_put, lastStored?, sameText_iff_of_eq_of, h.get?]

theorem Faithful.ask {c : Chronicle} (h : c.Faithful) (q : Request) : (c.ask q).Faithful := by
  cases q with
  | put r =>
    refine ⟨h.placed.put r, ?_⟩
    intro kind key
    simp only [Chronicle.ask, serve, put, Store.get?_put, lastStored?, sameText_iff_of_eq_of, h.get?]
  | remove kind key =>
    refine ⟨remove_placed h.placed kind key, ?_⟩
    intro kind' key'
    simp only [Chronicle.ask, serve, get?_remove, lastStored?, sameText_iff_of_eq_of, h.get?]
  | emit n => exact ⟨h.placed, h.get?⟩
  | watch => exact ⟨h.placed, h.get?⟩
  | cancel i => exact ⟨h.placed, h.get?⟩
  | release i => exact ⟨h.placed, h.get?⟩
  | closeWatches => exact ⟨h.placed, h.get?⟩
  | receive i =>
    rw [Chronicle.ask, serve]
    split <;> exact ⟨h.placed, h.get?⟩

theorem faithful (rs : List Resource) (qs : List Request) : (of rs qs).Faithful :=
  induction .empty (fun _ r h ↦ h.seed r) (fun _ q h ↦ h.ask q) rs qs

/-! ## The map -/

/-- A resource that was stored and is neither removed nor replaced. -/
def Live (same : Stage → Stage → Bool) (c : Chronicle) (r : Resource) : Prop :=
  lastStored? same r.kind r.key c.events = some r

/-- To those who ask about a stage the registry is a map of what was stored last and not removed
since, where `same` tells stages apart. -/
structure IsMap (same : Stage → Stage → Bool) (c : Chronicle) (t : Stage) : Prop where
  get : ∀ kind name, c.registry.get kind ⟨t, name⟩ =
    match lastStored? same kind ⟨t, name⟩ c.events with
    | some r => .ok r
    | none => .error (.notFound kind ⟨t, name⟩)
  removed : ∀ kind name, (c.registry.remove kind ⟨t, name⟩).1 =
    lastStored? same kind ⟨t, name⟩ c.events
  others : ∀ kind name kind' key', ¬ SameObject same kind' kind key' ⟨t, name⟩ →
    (c.registry.remove kind ⟨t, name⟩).2.get kind' key' = c.registry.get kind' key'
  ordered : ∀ kind, (c.registry.store.list kind t).Pairwise (·.name < ·.name)
  mem_list : ∀ kind r, r ∈ c.registry.store.list kind t ↔
    c.Live same r ∧ r.kind = kind ∧ r.stage.same t
  stages_ordered : c.registry.store.stages.Pairwise (·.key < ·.key)
  stage_of_object : ∀ r, c.Live same r → r.kind = .stage → same r.stage t →
    ∃ u ∈ c.registry.store.stages, same u t
  object_of_stage : ∀ u ∈ c.registry.store.stages, same u t →
    ∃ r, c.Live same r ∧ r.kind = .stage ∧ r.stage = u

/-- The registry is a map, for all who ask, if stages with the same text are taken for one. -/
theorem Faithful.isMap {c : Chronicle} (h : c.Faithful) (t : Stage) :
    c.IsMap Stage.sameText t where
  get kind name := by
    have hget := h.get? kind ⟨t, name⟩
    rw [Registry.get]
    cases hstored : lastStored? Stage.sameText kind ⟨t, name⟩ c.events with
    | none => rw [hget, hstored]
    | some r => rw [hget, hstored]
  removed kind name := by rw [remove_fst, h.get?]
  others kind name kind' key' hne := by
    rw [Registry.get, Registry.get, get?_remove, if_neg]
    intro heq
    exact hne (sameText_iff_of_eq_of.2 heq.symm)
  ordered kind := h.placed.list_pairwise kind t
  mem_list kind r := by rw [Store.mem_list, h.placed.mem_resources_iff, h.get?, Live]
  stages_ordered := Store.stages_pairwise _
  stage_of_object r hr hkind hsame := by
    rw [Live, ← h.get?, ← h.placed.mem_resources_iff] at hr
    obtain ⟨u, hu, hkey⟩ := Store.exists_mem_stages hr hkind
    exact ⟨u, hu, Stage.sameText_iff.2 (hkey.trans (Stage.sameText_iff.1 hsame))⟩
  object_of_stage u hu _ := by
    obtain ⟨r, hr, hkind, hstage⟩ := Store.exists_of_mem_stages hu
    rw [h.placed.mem_resources_iff, h.get?] at hr
    exact ⟨r, hr, hkind, hstage⟩

end Chronicle

/-! ## Names instead of texts -/

theorem sameText_iff_of_unmistakable (key : ResourceKey) (hkey : key.stage.Unmistakable) :
    SameObject Stage.sameText kind' kind key' key ↔ SameObject Stage.same kind' kind key' key := by
  rw [SameObject, SameObject, hkey.sameText_eq_same]

theorem lastStored?_of_unmistakable (key : ResourceKey) (hkey : key.stage.Unmistakable)
    (es : List Event) :
    lastStored? Stage.sameText kind key es = lastStored? Stage.same kind key es := by
  induction es with
  | nil => rfl
  | cons e es ih =>
    cases e <;> simp only [lastStored?, ih, sameText_iff_of_unmistakable key hkey]

namespace Chronicle

variable {c : Chronicle} {t : Stage}

theorem live_of_unmistakable {r : Resource} (hr : r.stage.Unmistakable) :
    c.Live Stage.sameText r ↔ c.Live Stage.same r := by
  rw [Live, Live, lastStored?_of_unmistakable r.key hr]

theorem IsMap.of_sameText (h : c.IsMap Stage.sameText t) (ht : t.Unmistakable) :
    c.IsMap Stage.same t where
  get kind name := by
    rw [h.get, lastStored?_of_unmistakable ⟨t, name⟩ ht]
  removed kind name := by
    rw [h.removed, lastStored?_of_unmistakable ⟨t, name⟩ ht]
  others kind name kind' key' hne := by
    apply h.others
    rwa [sameText_iff_of_unmistakable ⟨t, name⟩ ht]
  ordered := h.ordered
  mem_list kind r := by
    rw [h.mem_list, and_congr_left_iff]
    rintro ⟨-, hsame⟩
    exact live_of_unmistakable (ht.of_same (Stage.same_comm.1 hsame))
  stages_ordered := h.stages_ordered
  stage_of_object r hr hkind hsame := by
    rw [← live_of_unmistakable (ht.of_same (Stage.same_comm.1 hsame))] at hr
    obtain ⟨u, hu, hkey⟩ := h.stage_of_object r hr hkind (by rwa [ht.sameText_eq_same])
    exact ⟨u, hu, by rwa [ht.sameText_eq_same] at hkey⟩
  object_of_stage u hu hsame := by
    obtain ⟨r, hr, hkind, rfl⟩ := h.object_of_stage u hu (by rwa [ht.sameText_eq_same])
    exact ⟨r, (live_of_unmistakable (ht.of_same (Stage.same_comm.1 hsame))).1 hr, hkind, rfl⟩

/-- A resource of another stage with the same text takes the place of one of this stage. -/
theorem exists_not_isMap (ht : ¬ t.Unmistakable) :
    ∃ rs qs, ¬ (of rs qs).IsMap Stage.same t := by
  obtain ⟨u, hkey, hne⟩ := Stage.exists_sameText ht
  let r (s : Stage) : Resource := { kind := .route, stage := s, name := "" }
  refine ⟨[], [.put (r t), .put (r u)], ?_⟩
  intro h
  have hget := (((faithful [] [.put (r t), .put (r u)]).isMap t).get .route "").symm.trans
    (h.get .route "")
  have htext : SameObject Stage.sameText (r u).kind .route (r u).key ⟨t, ""⟩ :=
    ⟨rfl, Stage.sameText_iff.2 hkey, rfl⟩
  have hother : ¬ SameObject Stage.same (r u).kind .route (r u).key ⟨t, ""⟩ := fun h ↦ hne h.2.1
  have hself : SameObject Stage.same (r t).kind .route (r t).key ⟨t, ""⟩ :=
    ⟨rfl, Stage.same_refl t, rfl⟩
  have hevents : (of [] [.put (r t), .put (r u)]).events = [.put (r u), .put (r t)] := rfl
  rw [hevents, lastStored?, if_pos htext, lastStored?, if_neg hother, lastStored?,
    if_pos hself] at hget
  have heq : u = t := congrArg Resource.stage (Except.ok.inj hget)
  exact hne (heq ▸ Stage.same_refl u)

/-- After every history the registry is, to those who ask about a stage, a map in which stages are
told apart by their texts. It is, after every history, one in which stages are told apart by their
names exactly if no other stage has the text of this one. -/
theorem isMap_iff_unmistakable (t : Stage) :
    (∀ rs qs, (of rs qs).IsMap Stage.sameText t) ∧
      ((∀ rs qs, (of rs qs).IsMap Stage.same t) ↔ t.Unmistakable) := by
  refine ⟨fun rs qs ↦ (faithful rs qs).isMap t, ?_⟩
  constructor
  · intro h
    by_contra ht
    obtain ⟨rs, qs, hnot⟩ := exists_not_isMap ht
    exact hnot (h rs qs)
  · intro ht rs qs
    exact ((faithful rs qs).isMap t).of_sameText ht

/-- Two routes of one name, in a stage `b/c` of `a` and in a stage `c` of `a/b`: the first is looked
up as the second, and removing the second removes it too. -/
theorem route_replaced_by_another_stage :
    let r : Resource := { kind := .route, stage := { gateway := "a", name := "b/c" }, name := "r" }
    let r' : Resource := { kind := .route, stage := { gateway := "a/b", name := "c" }, name := "r" }
    let c := of [] [.put r, .put r']
    ¬ r.key.same r'.key ∧ lastStored? Stage.same .route r.key c.events = some r ∧
      c.registry.get .route r.key = .ok r' ∧ c.registry.store.list .route r.stage = [] ∧
      (c.ask (.remove .route r'.key)).registry.get .route r.key =
        .error (.notFound .route r.key) := by
  intro r r' c
  have hlist : c.registry.store.list .route r.stage = [] := by
    have hentries : c.registry.store.entries.map Prod.snd = [r'] := rfl
    have hother : r'.stage.same r.stage = false := by decide +kernel
    simp [Store.list, hentries, hother]
  exact ⟨by decide +kernel, rfl, rfl, hlist, rfl⟩

end Chronicle

end Registry

end StageRelay
