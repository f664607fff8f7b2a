import Mathlib.Data.List.Nodup
import StageRelay.Json.Shape
import StageRelay.Proofs.Dict
import StageRelay.Proofs.Except

/-!
# Reading what was written

A shape rereads a way of writing values if it takes each value that it has taken from some draft
again from the way the value is written. Then nothing of a value that was read is lost when it is
written, and how it is written tells the value. Shapes of parts make up shapes of lists,
dictionaries and records that reread what they take, too.
-/

namespace StageRelay

namespace Shape

variable {α : Type}

/-- What a shape reads is read again from the way it is written. -/
def Rereads (shape : Shape α) (write : α → Json) : Prop :=
  ∀ d a, shape d = .ok a → shape (.ofJson (write a)) = .ok a

namespace Rereads

variable {shape : Shape α} {write : α → Json}

theorem of_forall (h : ∀ a, shape (.ofJson (write a)) = .ok a) : shape.Rereads write :=
  fun _ a _ ↦ h a

/-- A value that was read is written again the way that it was written first. -/
theorem idempotent (h : shape.Rereads write) {d : Draft} {v : Json}
    (hv : (shape d).map write = .ok v) : (shape (.ofJson v)).map write = .ok v := by
  cases ha : shape d with
  | error e =>
    rw [ha] at hv
    cases hv
  | ok a =>
    rw [ha] at hv
    obtain rfl : write a = v := Except.ok.inj hv
    rw [h d a ha]
    rfl

/-- Values that were read are written differently. -/
theorem eq_iff (h : shape.Rereads write) {d e : Draft} {a b : α} (ha : shape d = .ok a)
    (hb : shape e = .ok b) : a = b ↔ write a = write b := by
  refine ⟨congrArg write, fun heq ↦ ?_⟩
  have hread := h d a ha
  rw [heq, h e b hb] at hread
  exact (Except.ok.inj hread).symm

end Rereads

/-! ## Scalars -/

@[simp] theorem text_ofJson (s : String) : text (.ofJson (.string s)) = .ok s := rfl

theorem integer_ofJson {expected : String} {low high i : Int} (h : low ≤ i ∧ i ≤ high) :
    integer expected low high (.ofJson (.int i)) = .ok i :=
  if_pos h

@[simp] theorem int64_ofJson (i : Int64) : int64 (.ofJson (.int i.toInt)) = .ok i := by
  have hlow := i.le_toInt
  have hhigh := i.toInt_lt
  rw [int64, integer_ofJson (by omega)]
  exact congrArg Except.ok i.ofInt_toInt

@[simp] theorem uint32_ofJson (n : UInt32) : uint32 (.ofJson (.int n.toNat)) = .ok n := by
  have hhigh := n.toNat_lt
  rw [uint32, integer_ofJson (by omega)]
  exact congrArg Except.ok n.ofNat_toNat

/-! ## Any values -/

end Shape

namespace Draft

theorem eq_of_finish_eq_ok {α : Type} {stop : Option Break} {a b : α} (h : finish stop a = .ok b) :
    a = b := by
  cases stop with
  | none => exact Except.ok.inj h
  | some e => cases h

theorem ofItems_eq_map (values : List Json) : ofItems values = values.map ofJson := by
  induction values with
  | nil => rfl
  | cons v rest ih => rw [ofItems, ih, List.map_cons]

theorem ofFields_eq_map (fields : List (String × Json)) :
    ofFields fields = fields.map fun e ↦ (some e.1, ofJson e.2) := by
  induction fields with
  | nil => rfl
  | cons e rest ih => rw [ofFields, ih, List.map_cons]

theorem valueItems_ofItems {values : List Json} (h : ∀ v ∈ values, (ofJson v).value = .ok v) :
    valueItems (ofItems values) = .ok values := by
  induction values with
  | nil => rfl
  | cons v rest ih =>
    obtain ⟨hv, hrest⟩ := List.forall_mem_cons.1 h
    rw [ofItems, valueItems, hv, ih hrest]
    rfl

theorem valueFields_ofFields {fields : List (String × Json)}
    (h : ∀ e ∈ fields, (ofJson e.2).value = .ok e.2) :
    valueFields (ofFields fields) = .ok fields := by
  induction fields with
  | nil => rfl
  | cons e rest ih =>
    obtain ⟨he, hrest⟩ := List.forall_mem_cons.1 h
    rw [ofFields, valueFields, he, ih hrest]
    rfl

mutual

/-- The value of a draft is the value of the draft that is made of it. -/
theorem value_ofJson : ∀ {d : Draft} {v : Json}, d.value = .ok v → (ofJson v).value = .ok v
  | .null, _, rfl => rfl
  | .bool _, _, rfl => rfl
  | .number _, _, rfl => rfl
  | .string _, _, rfl => rfl
  | .array items stop, v, h => by
    obtain ⟨values, hvalues, h⟩ := Except.bind_eq_ok_iff.1 h
    obtain rfl : Json.array values = v := eq_of_finish_eq_ok h
    rw [ofJson, value, valueItems_ofItems (value_of_mem_valueItems hvalues)]
    rfl
  | .object fields stop, v, h => by
    obtain ⟨values, hvalues, h⟩ := Except.bind_eq_ok_iff.1 h
    obtain rfl : Json.ofFields values = v := eq_of_finish_eq_ok h
    have hkept := value_of_mem_valueFields hvalues
    rw [Json.ofFields, ofJson, value,
      valueFields_ofFields fun e he ↦ hkept e (Dict.mem_of_mem_ofEntries he)]
    exact congrArg (Except.ok ∘ Json.object) (Dict.sorted_ofEntries values).ofEntries_eq

theorem value_of_mem_valueItems : ∀ {items : List Draft} {values : List Json},
    valueItems items = .ok values → ∀ v ∈ values, (ofJson v).value = .ok v
  | [], _, rfl => List.forall_mem_nil _
  | d :: rest, values, h => by
    obtain ⟨v, hv, h⟩ := Except.bind_eq_ok_iff.1 h
    obtain ⟨vs, hvs, h⟩ := Except.bind_eq_ok_iff.1 h
    obtain rfl := Except.ok.inj h
    exact List.forall_mem_cons.2 ⟨value_ofJson hv, value_of_mem_valueItems hvs⟩

theorem value_of_mem_valueFields : ∀ {fields : List (Option String × Draft)}
    {values : List (String × Json)}, valueFields fields = .ok values →
    ∀ e ∈ values, (ofJson e.2).value = .ok e.2
  | [], _, rfl => List.forall_mem_nil _
  | (some k, d) :: rest, values, h => by
    obtain ⟨v, hv, h⟩ := Except.bind_eq_ok_iff.1 h
    obtain ⟨vs, hvs, h⟩ := Except.bind_eq_ok_iff.1 h
    obtain rfl := Except.ok.inj h
    exact List.forall_mem_cons.2 ⟨value_ofJson hv, value_of_mem_valueFields hvs⟩

end

end Draft

namespace Shape

theorem any_rereads : any.Rereads id := by
  intro d v h
  rw [any, Except.mapError_eq_ok_iff] at h
  rw [any, id, Draft.value_ofJson h]
  rfl

/-! ## Lists and dictionaries -/

variable {α : Type} {item : Shape α} {write : α → Json}

theorem eq_of_finish_eq_ok {stop : Option Break} {a b : α} (h : finish stop a = .ok b) : a = b := by
  cases stop with
  | none => exact Except.ok.inj h
  | some e => cases h

theorem list_ofJson {values : List α} (h : ∀ a ∈ values, item (.ofJson (write a)) = .ok a) :
    list item (.ofJson (.array (values.map write))) = .ok values := by
  rw [Draft.ofJson, list, Draft.ofItems_eq_map, List.map_map, List.mapM_map,
    Except.mapM_eq_ok (f := item ∘ Draft.ofJson ∘ write) (g := id) h, List.map_id]
  rfl

/-- The entries of a dictionary that was read, each with the draft that it was read from. -/
theorem exists_of_mem_dict {d : Draft} {entries : Dict α} (h : dict item d = .ok entries) :
    entries.Sorted ∧ ∀ e ∈ entries, ∃ d', item d' = .ok e.2 := by
  cases d with
  | object fields stop =>
    obtain ⟨es, hes, h⟩ := Except.bind_eq_ok_iff.1 h
    obtain rfl := eq_of_finish_eq_ok h
    refine ⟨Dict.sorted_ofEntries es, fun e he ↦ ?_⟩
    obtain ⟨f, -, hf⟩ := ((Except.mem_of_mapM_eq_ok hes).2 e).1 (Dict.mem_of_mem_ofEntries he)
    obtain ⟨- | k, d'⟩ := f
    · cases hf
    · obtain ⟨a, ha, hf⟩ := Except.bind_eq_ok_iff.1 hf
      obtain rfl := Except.ok.inj hf
      exact ⟨d', ha⟩
  | _ => cases h

theorem dict_ofJson {entries : Dict α} (hsorted : entries.Sorted)
    (h : ∀ e ∈ entries, item (.ofJson (write e.2)) = .ok e.2) :
    dict item (.ofJson (.object (entries.map fun e ↦ (e.1, write e.2)))) = .ok entries := by
  rw [Draft.ofJson, dict, Draft.ofFields_eq_map, List.map_map, List.mapM_map,
    Except.mapM_eq_ok (g := id), List.map_id]
  · exact congrArg Except.ok hsorted.ofEntries_eq
  · intro e he
    simp only [Function.comp_apply, h e he]
    rfl

theorem dict_rereads (hitem : item.Rereads write) :
    (dict item).Rereads fun entries ↦ .object (entries.map fun e ↦ (e.1, write e.2)) := by
  intro d entries h
  obtain ⟨hsorted, hread⟩ := exists_of_mem_dict h
  refine dict_ofJson hsorted fun e he ↦ ?_
  obtain ⟨d', hd'⟩ := hread e he
  exact hitem d' e.2 hd'

end Shape

/-! ## Records -/

namespace Fields

variable {α : Type} {taken : Fields} {slots : List Slot} {fields : List (String × Json)}

theorem get_of_find? {f : Field α} {d : Draft} (h : taken.find? f.name = some d) :
    taken.get f = f.shape d := by
  rw [get, h]

/-- The value of a field was read, or it stands for the field that was left out. -/
theorem reread_of_get {f : Field α} {write : α → Json} {a : α} (hf : f.shape.Rereads write)
    (hdefault : ∀ b ∈ f.default?, f.shape (.ofJson (write b)) = .ok b) (h : taken.get f = .ok a) :
    f.shape (.ofJson (write a)) = .ok a := by
  unfold get at h
  split at h
  · next d _ => exact hf d a h
  · next b _ hb =>
    obtain rfl := Except.ok.inj h
    exact hdefault b hb
  · cases h

/-- No two slots of a record have a name in common. -/
def Apart (slots : List Slot) : Prop :=
  (slots.flatMap fun s ↦ s.name :: s.aliases).Nodup

instance : Decidable (Apart slots) :=
  inferInstanceAs (Decidable (List.Nodup _))

theorem Apart.find?_eq_some (h : Apart slots) {s : Slot} (hs : s ∈ slots) :
    (slots.find? fun s' ↦ s'.name = s.name ∨ s.name ∈ s'.aliases) = some s := by
  induction slots with
  | nil => cases hs
  | cons s' rest ih =>
    rw [Apart, List.flatMap_cons, List.nodup_append] at h
    obtain ⟨-, hrest, hdisjoint⟩ := h
    rcases List.mem_cons.1 hs with rfl | hs
    · rw [List.find?_cons_of_pos (by simp)]
    · have hname : s.name ∈ rest.flatMap fun s ↦ s.name :: s.aliases :=
        List.mem_flatMap.2 ⟨s, hs, List.mem_cons_self⟩
      rw [List.find?_cons_of_neg, ih hrest hs]
      simp only [decide_eq_true_eq]
      rintro (heq | halias)
      · exact hdisjoint _ (List.mem_cons_self) _ hname heq
      · exact hdisjoint _ (List.mem_cons_of_mem _ halias) _ hname rfl

theorem ofObject_cons {k : String} {s : Slot} {d : Draft} {rest : List (Option String × Draft)}
    (hslot : (slots.find? fun s ↦ s.name = k ∨ k ∈ s.aliases) = some s)
    (hnew : taken.find? s.name = none) (hcheck : s.check d = .ok ()) :
    ofObject slots taken ((some k, d) :: rest) = ofObject slots ((s.name, d) :: taken) rest := by
  simp only [ofObject, hslot, hnew, hcheck, Option.isSome_none, Bool.false_eq_true, if_false]
  rfl

theorem Apart.nodup_names (h : Apart slots) : (slots.map Slot.name).Nodup := by
  refine h.sublist ?_
  clear h
  induction slots with
  | nil => exact .slnil
  | cons s rest ih => exact (ih.trans (List.sublist_append_right s.aliases _)).cons_cons s.name

end Fields

/-- A field with a value, and with the way it is written, from which it is read. -/
structure Filled where
  {α : Type}
  field : Field α
  value : α
  written : Json
  reads : field.shape (.ofJson written) = .ok value

namespace Filled

/-- The field as an object has it. -/
def entry (e : Filled) : String × Json :=
  (e.field.name, e.written)

theorem check (e : Filled) : e.field.slot.check (.ofJson e.written) = .ok () :=
  congrArg (Functor.map fun _ ↦ ()) e.reads

variable {α : Type} (entries : List Filled)

variable {entries} in
/-- An object with fields of a record is taken field by field. -/
theorem exists_ofObject (hapart : Fields.Apart (entries.map fun e ↦ e.field.slot))
    {fields : List (String × Json)} (hdistinct : (fields.map Prod.fst).Nodup)
    (hentries : ∀ p ∈ fields, ∃ e ∈ entries, e.entry = p) {taken : Fields}
    (hnew : ∀ p ∈ fields, taken.find? p.1 = none) :
    ∃ taken', Fields.ofObject (entries.map fun e ↦ e.field.slot) taken (Draft.ofFields fields) =
        .ok taken' ∧
      (∀ p ∈ fields, taken'.find? p.1 = some (.ofJson p.2)) ∧
      ∀ k ∉ fields.map Prod.fst, taken'.find? k = taken.find? k := by
  induction fields generalizing taken with
  | nil => exact ⟨taken, rfl, List.forall_mem_nil _, fun k _ ↦ rfl⟩
  | cons p rest ih =>
    obtain ⟨hp, hrest⟩ := List.nodup_cons.1 hdistinct
    obtain ⟨⟨e, he, rfl⟩, hentries'⟩ := List.forall_mem_cons.1 hentries
    obtain ⟨hnone, hnew'⟩ := List.forall_mem_cons.1 hnew
    have hslot := hapart.find?_eq_some (List.mem_map.2 ⟨e, he, rfl⟩)
    have hlater : ∀ p ∈ rest,
        Fields.find? p.1 ((e.field.name, .ofJson e.written) :: taken) = none := by
      intro p hmem
      rw [Fields.find?, if_neg, hnew' p hmem]
      intro (hsame : e.field.name = p.1)
      exact hp (List.mem_map.2 ⟨p, hmem, hsame.symm⟩)
    obtain ⟨taken', htaken', hfound, hother⟩ := ih hrest hentries' hlater
    refine ⟨taken', ?_, List.forall_mem_cons.2 ⟨?_, hfound⟩, fun k hk ↦ ?_⟩
    · exact (Fields.ofObject_cons hslot hnone e.check).trans htaken'
    · rw [hother _ hp]
      exact if_pos rfl
    · rw [List.map_cons, List.mem_cons, not_or] at hk
      rw [hother k hk.2]
      exact if_neg (Ne.symm hk.1)

/-- A record is read from an object of its fields, each with its value and in any order. -/
theorem record_bind {record : String} {fields : List (String × Json)}
    {build : Fields → Except Fault α} {a : α}
    (hapart : Fields.Apart (entries.map fun e ↦ e.field.slot))
    (hnames : (fields.map Prod.fst).Perm (entries.map fun e ↦ e.field.name))
    (hentries : ∀ e ∈ entries, e.entry ∈ fields)
    (hbuild : ∀ taken : Fields, (∀ e ∈ entries, taken.get e.field = .ok e.value) →
      build taken = .ok a) :
    (Draft.record record (entries.map fun e ↦ e.field.slot) (.ofJson (.object fields)) >>=
      build) = .ok a := by
  have hdistinct : (fields.map Prod.fst).Nodup := by
    have hslots := hapart.nodup_names
    rw [List.map_map] at hslots
    exact hnames.nodup_iff.2 hslots
  have hfields : ∀ p ∈ fields, ∃ e ∈ entries, e.entry = p := by
    intro p hp
    obtain ⟨e, he, hname⟩ := List.mem_map.1 (hnames.mem_iff.1 (List.mem_map_of_mem hp))
    exact ⟨e, he, List.inj_on_of_nodup_map hdistinct (hentries e he) hp hname⟩
  have hnew : ∀ p ∈ fields, Fields.find? p.1 [] = none := fun _ _ ↦ rfl
  obtain ⟨taken, htaken, hfound, -⟩ := exists_ofObject hapart hdistinct hfields hnew
  have hfound (e : Filled) (he : e ∈ entries) :
      taken.find? e.field.name = some (.ofJson e.written) :=
    hfound e.entry (hentries e he)
  have hmissing : Fields.firstMissing (entries.map fun e ↦ e.field.slot) taken = none := by
    refine List.find?_eq_none.2 ?_
    intro s hs
    obtain ⟨e, he, rfl⟩ := List.mem_map.1 hs
    have hfound : taken.find? e.field.slot.name = some (.ofJson e.written) := hfound e he
    simp [hfound]
  have hrecord : Draft.record record (entries.map fun e ↦ e.field.slot)
      (.ofJson (.object fields)) = .ok taken := by
    refine Except.bind_eq_ok_iff.2 ⟨taken, htaken, ?_⟩
    refine Except.bind_eq_ok_iff.2 ⟨taken, rfl, ?_⟩
    rw [hmissing]
    rfl
  rw [hrecord]
  refine hbuild taken fun e he ↦ ?_
  rw [Fields.get_of_find? (hfound e he), e.reads]

end Filled

/-! ## Survival -/

/-- Records that are read by a shape survive being written: they are written as objects with the
given fields and no others, are read from these as they were, and are told apart by the way they are
written. -/
structure Survives {α : Type} (shape : Shape α) (toJson : α → Json) (names : List String) :
    Prop where
  written : ∀ d a, shape d = .ok a →
    ∃ fields, toJson a = .object fields ∧ (fields.map Prod.fst).Perm names
  back : ∀ d a, shape d = .ok a → shape (.ofJson (toJson a)) = .ok a
  again : ∀ d v, (shape d).map toJson = .ok v → (shape (.ofJson v)).map toJson = .ok v
  eq_iff : ∀ d e a b, shape d = .ok a → shape e = .ok b → (a = b ↔ toJson a = toJson b)

theorem Shape.Rereads.survives {α : Type} {shape : Shape α} {toJson : α → Json}
    (h : shape.Rereads toJson) {names : List String}
    (hwritten : ∀ a, ∃ fields, toJson a = .object fields ∧ (fields.map Prod.fst).Perm names) :
    Survives shape toJson names where
  written _ a _ := hwritten a
  back := h
  again _ _ := h.idempotent
  eq_iff _ _ _ _ := h.eq_iff

end StageRelay
