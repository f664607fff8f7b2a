import StageRelay.Bytes

/-!
# Beginnings of byte strings

What `strip` and `split` find, and that one text begins another exactly if its encoding begins the
other's: no character's encoding begins that of another character.
-/

namespace StageRelay.Bytes

/-! ## Stripping -/

theorem strip_eq_some_iff {label key rest : Bytes} :
    strip label key = some rest ↔ key = label ++ rest := by
  induction label generalizing key with
  | nil => simp [strip]
  | cons l label ih =>
    cases key with
    | nil => simp [strip]
    | cons b key =>
      by_cases h : l = b
      · simp [strip, h, ih]
      · simp [strip, h, Ne.symm h]

@[simp] theorem strip_append_self (label rest : Bytes) : strip label (label ++ rest) = some rest :=
  strip_eq_some_iff.2 rfl

theorem strip_eq_none_iff {label key : Bytes} : strip label key = none ↔ ¬ label <+: key := by
  rw [Option.eq_none_iff_forall_ne_some]
  constructor
  · rintro h ⟨rest, rfl⟩
    exact h rest (strip_append_self label rest)
  · intro h rest hs
    exact h ⟨rest, (strip_eq_some_iff.1 hs).symm⟩

/-- A byte string continues a label, or it is no continuation of it at all. -/
theorem strip_cases (label key : Bytes) :
    (∃ rest, key = label ++ rest) ∨ strip label key = none ∧ ∀ rest, key ≠ label ++ rest := by
  cases h : strip label key with
  | some rest => exact .inl ⟨rest, strip_eq_some_iff.1 h⟩
  | none =>
    refine .inr ⟨rfl, ?_⟩
    rintro rest rfl
    exact strip_eq_none_iff.1 h (List.prefix_append label rest)

/-- A label in two parts is stripped part by part. -/
theorem strip_append (label label' key : Bytes) :
    strip (label ++ label') key = (strip label key).bind (strip label') := by
  induction label generalizing key with
  | nil => simp [strip]
  | cons l label ih =>
    cases key with
    | nil => simp [strip]
    | cons b key => by_cases h : l = b <;> simp [strip, h, ih]

/-! ## Splitting -/

/-- Both byte strings consist of the common part and their own rests, and the rests part at once. -/
theorem split_spec {label key common label' key' : Bytes}
    (h : split label key = (common, label', key')) :
    label = common ++ label' ∧ key = common ++ key' ∧
      ∀ c d l k, label' = c :: l → key' = d :: k → c ≠ d := by
  induction label generalizing key common with
  | nil =>
    simp only [split, Prod.mk.injEq] at h
    obtain ⟨rfl, rfl, rfl⟩ := h
    simp
  | cons l label ih =>
    cases key with
    | nil =>
      simp only [split, Prod.mk.injEq] at h
      obtain ⟨rfl, rfl, rfl⟩ := h
      simp
    | cons b key =>
      by_cases hl : l = b
      · rcases hs : split label key with ⟨common', l', k'⟩
        simp only [split, hl, if_true, hs, Prod.mk.injEq] at h
        obtain ⟨rfl, rfl, rfl⟩ := h
        obtain ⟨h₁, h₂, h₃⟩ := ih hs
        exact ⟨by simp [hl, h₁], by simp [h₂], h₃⟩
      · simp only [split, hl, if_false, Prod.mk.injEq] at h
        obtain ⟨rfl, rfl, rfl⟩ := h
        refine ⟨rfl, rfl, ?_⟩
        rintro c d _ _ ⟨rfl, rfl⟩ ⟨rfl, rfl⟩
        exact hl

/-! ## Texts -/

@[simp] theorem ofText_nil : ofText [] = [] := rfl

@[simp] theorem ofText_cons (c : Char) (cs : List Char) :
    ofText (c :: cs) = String.utf8EncodeChar c ++ ofText cs := by
  simp [ofText]

/-- What begins with the encoding of a character tells the character. -/
theorem decode_encode (c : Char) (bs : Bytes) :
    ByteArray.utf8DecodeChar? (String.utf8EncodeChar c ++ bs).toByteArray 0 = some c := by
  rw [List.toByteArray_append]
  exact ByteArray.utf8DecodeChar?_utf8EncodeChar_append

/-- Encodings that begin alike begin with the same character. -/
theorem encode_inj {c d : Char} {bs ds : Bytes}
    (h : String.utf8EncodeChar c ++ bs = String.utf8EncodeChar d ++ ds) : c = d := by
  have hc := decode_encode c bs
  rw [h, decode_encode] at hc
  exact (Option.some.inj hc).symm

/-- A text begins another one exactly if its encoding begins the other encoding. -/
@[simp] theorem ofText_isPrefix_iff {cs ds : List Char} : ofText cs <+: ofText ds ↔ cs <+: ds := by
  induction cs generalizing ds with
  | nil => simp
  | cons c cs ih =>
    cases ds with
    | nil => simp [String.utf8EncodeChar_ne_nil]
    | cons d ds =>
      rw [ofText_cons, ofText_cons, List.cons_prefix_cons]
      constructor
      · rintro ⟨rest, h⟩
        rw [List.append_assoc] at h
        obtain rfl := encode_inj h
        exact ⟨rfl, ih.1 ⟨rest, List.append_cancel_left h⟩⟩
      · rintro ⟨rfl, h⟩
        exact (List.prefix_append_right_inj _).2 (ih.2 h)

/-- Different texts have different encodings. -/
theorem ofText_injective {cs ds : List Char} (h : ofText cs = ofText ds) : cs = ds := by
  have h₁ : cs <+: ds := ofText_isPrefix_iff.1 (h ▸ List.prefix_rfl)
  have h₂ : ds <+: cs := ofText_isPrefix_iff.1 (h ▸ List.prefix_rfl)
  exact h₁.eq_of_length_le h₂.length_le

end StageRelay.Bytes
