import StageRelay.Proofs.Bytes
import StageRelay.Proofs.Sni.Shape

/-!
# Keys of server names

The key of a name tells the name, and the names whose keys begin the key of a host are the host's
own name and the wildcards that the host ends like. It is the same with the keys that begin the key
of another name.
-/

namespace StageRelay

namespace Sni

/-- A name that begins with a star. -/
def IsWildcard (cs : List Char) : Prop :=
  ∃ rest, cs = '*' :: rest

instance (cs : List Char) : Decidable (IsWildcard cs) :=
  decidable_of_iff (cs.head? = some '*') (by cases cs <;> simp [IsWildcard])

@[simp] theorem patternKey_star (rest : List Char) : patternKey ('*' :: rest) = rest.reverse := rfl

theorem patternKey_of_not_isWildcard {cs : List Char} (h : ¬ IsWildcard cs) :
    patternKey cs = cs.reverse ++ [endMark] := by
  unfold patternKey
  split
  · exact absurd ⟨_, rfl⟩ h
  · rfl

/-- The key of a wildcard has no end mark. -/
theorem WellShaped.endMark_notMem_patternKey {rest : List Char}
    (h : WellShaped ('*' :: rest)) : endMark ∉ patternKey ('*' :: rest) := by
  rw [patternKey_star, List.mem_reverse]
  exact fun hm ↦ h.endMark_notMem (List.mem_cons_of_mem '*' hm)

/-- Different names have different keys. -/
theorem WellShaped.patternKey_inj {m n : List Char} (hm : WellShaped m) (hn : WellShaped n)
    (h : patternKey m = patternKey n) : m = n := by
  have mixed {rest cs : List Char} (hr : WellShaped ('*' :: rest)) (hc : ¬ IsWildcard cs) :
      patternKey ('*' :: rest) ≠ patternKey cs := by
    intro he
    apply hr.endMark_notMem_patternKey
    rw [he, patternKey_of_not_isWildcard hc]
    simp
  by_cases hwm : IsWildcard m <;> by_cases hwn : IsWildcard n
  · obtain ⟨rest, rfl⟩ := hwm
    obtain ⟨rest', rfl⟩ := hwn
    simpa using h
  · obtain ⟨rest, rfl⟩ := hwm
    exact absurd h (mixed hm hwn)
  · obtain ⟨rest, rfl⟩ := hwn
    exact absurd h.symm (mixed hn hwm)
  · rw [patternKey_of_not_isWildcard hwm, patternKey_of_not_isWildcard hwn] at h
    simpa using h

/-- A wildcard `*.s` that a host name ends like, with `.s`. -/
def Covers (n host : List Char) : Prop :=
  ∃ s, n = '*' :: '.' :: s ∧ '.' :: s <:+ host

theorem covers_star_iff {s host : List Char} :
    Covers ('*' :: '.' :: s) host ↔ '.' :: s <:+ host := by
  constructor
  · rintro ⟨s', h, hs⟩
    obtain rfl : s = s' := by simpa using h
    exact hs
  · exact fun hs ↦ ⟨s, rfl, hs⟩

theorem Covers.isWildcard {n host : List Char} (h : Covers n host) : IsWildcard n := by
  obtain ⟨s, hn, -⟩ := h
  exact ⟨'.' :: s, hn⟩

/-- The host name as it is looked up begins with the keys of the wildcards that it ends like. -/
theorem WellShaped.patternKey_isPrefix_iff_covers {n host : List Char} (hn : WellShaped n)
    (hw : IsWildcard n) : patternKey n <+: host.reverse ++ [endMark] ↔ Covers n host := by
  obtain ⟨rest, rfl⟩ := hw
  have hm := hn.endMark_notMem_patternKey
  obtain ⟨s, rfl⟩ := hn.point_after_star rest rfl
  rw [patternKey_star] at hm ⊢
  rw [covers_star_iff, List.prefix_concat_iff, List.reverse_prefix]
  constructor
  · rintro (h | h)
    · rw [h] at hm
      simp at hm
    · exact h
  · exact .inr

/-- The key of a name that is no wildcard ends with the mark, and so does the host name as it is
looked up. The mark of the name may be that one or one within the host name. -/
theorem patternKey_isPrefix_iff_of_not_isWildcard {n host : List Char} (hw : ¬ IsWildcard n) :
    patternKey n <+: host.reverse ++ [endMark] ↔ n = host ∨ endMark :: n <:+ host := by
  rw [patternKey_of_not_isWildcard hw, List.prefix_concat_iff, ← List.reverse_cons,
    ← List.reverse_cons, List.reverse_prefix, List.reverse_inj]
  simp

/-- The host name as it is looked up begins with the key of its own name and with those of the
wildcards that it ends like, and with no other. -/
theorem WellShaped.patternKey_isPrefix_iff {n host : List Char} (hn : WellShaped n)
    (hh : endMark ∉ host) :
    patternKey n <+: host.reverse ++ [endMark] ↔ ¬ IsWildcard n ∧ n = host ∨ Covers n host := by
  by_cases hw : IsWildcard n
  · simp [hn.patternKey_isPrefix_iff_covers hw, hw]
  · have hmark : ¬ endMark :: n <:+ host := fun hs ↦ hh (hs.subset (by simp))
    have hcovers : ¬ Covers n host := fun hc ↦ hw hc.isWildcard
    simp [patternKey_isPrefix_iff_of_not_isWildcard hw, hw, hmark, hcovers]

/-! ## Keys that begin other keys -/

/-- A name without its star. -/
def bare : List Char → List Char
  | '*' :: rest => rest
  | cs => cs

@[simp] theorem bare_star (rest : List Char) : bare ('*' :: rest) = rest := rfl

theorem bare_of_not_isWildcard {cs : List Char} (h : ¬ IsWildcard cs) : bare cs = cs := by
  unfold bare
  split
  · exact absurd ⟨_, rfl⟩ h
  · rfl

/-- A wildcard has no end mark in its key, so that only the keys of wildcards begin it. -/
theorem WellShaped.patternKey_isPrefix_star_iff {m rest : List Char} (hm : WellShaped m)
    (hn : WellShaped ('*' :: rest)) :
    patternKey m <+: patternKey ('*' :: rest) ↔ Covers m rest := by
  by_cases hw : IsWildcard m
  · obtain ⟨tail, rfl⟩ := hw
    obtain ⟨s, rfl⟩ := hm.point_after_star tail rfl
    rw [patternKey_star, patternKey_star, List.reverse_prefix, covers_star_iff]
  · constructor
    · intro h
      have hmark : endMark ∈ patternKey m := by simp [patternKey_of_not_isWildcard hw]
      exact absurd (h.subset hmark) hn.endMark_notMem_patternKey
    · exact fun hc ↦ absurd hc.isWildcard hw

/-- The keys that begin the key of a name are its own key and those of the wildcards that the name,
but for a star, ends like. -/
theorem WellShaped.patternKey_isPrefix_patternKey_iff {m n : List Char} (hm : WellShaped m)
    (hn : WellShaped n) :
    patternKey m <+: patternKey n ↔ ¬ IsWildcard m ∧ m = n ∨ Covers m (bare n) := by
  by_cases hw : IsWildcard n
  · obtain ⟨rest, rfl⟩ := hw
    have hown : ¬ (¬ IsWildcard m ∧ m = '*' :: rest) := fun h ↦ h.1 ⟨rest, h.2⟩
    rw [hm.patternKey_isPrefix_star_iff hn, bare_star, or_iff_right hown]
  · rw [patternKey_of_not_isWildcard hw, bare_of_not_isWildcard hw,
      hm.patternKey_isPrefix_iff hn.endMark_notMem]

end Sni

namespace CertificateIndex

/-- Different names have different places. -/
theorem place_inj {m n : String} (hm : Sni.WellShaped m.toList) (hn : Sni.WellShaped n.toList)
    (h : place m = place n) : m = n :=
  String.toList_inj.1 (hm.patternKey_inj hn (Bytes.ofText_injective h))

/-- The places that begin the place of a name. -/
theorem place_isPrefix_place_iff {m n : String} (hm : Sni.WellShaped m.toList)
    (hn : Sni.WellShaped n.toList) :
    place m <+: place n ↔
      ¬ Sni.IsWildcard m.toList ∧ m = n ∨ Sni.Covers m.toList (Sni.bare n.toList) := by
  rw [place, place, Bytes.ofText_isPrefix_iff, hm.patternKey_isPrefix_patternKey_iff hn,
    String.toList_inj]

end CertificateIndex

end StageRelay
