import Mathlib
import StageRelay.Proofs.Sni.Key

/-!
# Normal forms of server names

What a certificate serves is in normal form: nothing of it changes when it is normalized again. The
keys of such names keep them apart, and one of them begins another exactly where a wildcard stands
above the other name.
-/

namespace StageRelay

/-! ## Blank characters and points -/

namespace Text

theorem isBlank_eq_false_of_toNat {c : Char} (h : 32 < c.toNat) (h' : c.toNat < 127) :
    isBlank c = false := by
  simp only [isBlank, Bool.or_eq_false_iff, Bool.and_eq_false_iff, decide_eq_false_iff_not,
    beq_eq_false_iff_ne]
  omega

theorem isAlphanum_iff_toNat {c : Char} :
    c.isAlphanum ↔ (65 ≤ c.toNat ∧ c.toNat ≤ 90 ∨ 97 ≤ c.toNat ∧ c.toNat ≤ 122) ∨
      48 ≤ c.toNat ∧ c.toNat ≤ 57 := by
  simp only [Char.isAlphanum, Char.isAlpha, Char.isUpper, Char.isLower, Char.isDigit,
    Bool.or_eq_true, Bool.and_eq_true, decide_eq_true_eq, ge_iff_le]
  rfl

theorem isBlank_eq_false_of_isAlphanum {c : Char} (h : c.isAlphanum) : isBlank c = false := by
  rw [isAlphanum_iff_toNat] at h
  exact isBlank_eq_false_of_toNat (by omega) (by omega)

theorem isAlphanum_of_hexDigit? {c : Char} (h : (hexDigit? c).isSome) : c.isAlphanum := by
  have hrange {a b : Char} (hc : a ≤ c ∧ c ≤ b) : a.toNat ≤ c.toNat ∧ c.toNat ≤ b.toNat := hc
  rw [isAlphanum_iff_toNat]
  unfold hexDigit? at h
  split at h
  · next hc => exact .inr (hrange hc)
  · split at h
    · next hc =>
      obtain ⟨ha, hf⟩ := hrange hc
      exact .inl (.inr ⟨ha, hf.trans (by decide)⟩)
    · split at h
      · next hc =>
        obtain ⟨ha, hf⟩ := hrange hc
        exact .inl (.inl ⟨ha, hf.trans (by decide)⟩)
      · cases h

/-- A text without blank characters has none at its ends. -/
theorem trim_eq_self {cs : List Char} (h : ∀ c ∈ cs, isBlank c = false) : trim cs = cs := by
  have hstart : cs.dropWhile isBlank = cs := by
    rw [List.dropWhile_eq_self_iff]
    intro hl
    simp [h _ (List.getElem_mem hl)]
  have hend : cs.rdropWhile isBlank = cs := by
    rw [List.rdropWhile_eq_self_iff]
    intro hne
    simp [h _ (List.getLast_mem hne)]
  rw [trim, hstart]
  exact hend

theorem dropEnd_dropEnd (p : Char → Bool) (cs : List Char) :
    dropEnd p (dropEnd p cs) = dropEnd p cs :=
  List.rdropWhile_idempotent p cs

theorem lower_lower (cs : List Char) : lower (lower cs) = lower cs := by
  simp [lower, Char.toLower_toLower_eq_toLower]

/-- Only a point has the lower case of a point. -/
theorem toLower_eq_point_iff {c : Char} : c.toLower = '.' ↔ c = '.' := by
  constructor
  · intro h
    have halpha : c.isAlpha = false := by
      rw [← Char.isAlpha_toLower_eq_isAlpha, h]
      rfl
    have hupper : ¬ c.isUpper := by
      intro hu
      simp [Char.isAlpha, hu] at halpha
    rwa [Char.toLower_eq_of_not_isUpper hupper] at h
  · rintro rfl
    rfl

/-- The points at the end of a text are those at the end of its lower case. -/
theorem dropEnd_point_lower (cs : List Char) :
    dropEnd (· == '.') (lower cs) = lower (dropEnd (· == '.') cs) := by
  have hpoint : (· == '.') ∘ Char.toLower = (· == '.') := by
    funext c
    rw [Function.comp_apply, Bool.eq_iff_iff, beq_iff_eq, beq_iff_eq, toLower_eq_point_iff]
  rw [dropEnd, dropEnd, lower, lower, ← List.map_reverse, List.dropWhile_map, hpoint,
    List.map_reverse]

end Text

/-! ## Normalizing again -/

namespace Sni

theorem isBlank_eq_false_of_isHostChar {c : Char} (h : isHostChar c) :
    Text.isBlank c = false := by
  simp only [isHostChar, isLabelChar, Bool.or_eq_true, beq_iff_eq] at h
  rcases h with rfl | (h | rfl) | rfl
  · rfl
  · exact Text.isBlank_eq_false_of_isAlphanum h
  · rfl
  · rfl

theorem isBlank_eq_false_of_isAddressChar {c : Char} (h : Address.isAddressChar c) :
    Text.isBlank c = false := by
  simp only [Address.isAddressChar, Bool.or_eq_true, beq_iff_eq] at h
  rcases h with (h | rfl) | rfl
  · exact Text.isBlank_eq_false_of_isAlphanum (Text.isAlphanum_of_hexDigit? h)
  · rfl
  · rfl

/-- There is no blank character in a server name. -/
theorem isBlank_eq_false_of_isValid {cs : List Char} (h : isValid cs) :
    ∀ c ∈ cs, Text.isBlank c = false := by
  intro c hc
  rw [isValid, Bool.or_eq_true] at h
  rcases h with h | h
  · exact isBlank_eq_false_of_isAddressChar (Address.isAddressChar_of_parse? h c hc)
  · have hhost := isHostChar_of_isHost h
    unfold dropStar at hhost
    split at hhost
    · simp only [List.mem_cons] at hc
      rcases hc with rfl | rfl | hc
      · rfl
      · rfl
      · exact isBlank_eq_false_of_isHostChar (hhost c hc)
    · exact isBlank_eq_false_of_isHostChar (hhost c hc)

/-- A text that was cleaned is clean unless blank characters came to its end when the points behind
them were dropped. -/
theorem clean_clean {cs : List Char} (h : ∀ c ∈ clean cs, Text.isBlank c = false) :
    clean (clean cs) = clean cs := by
  have hends : Text.dropEnd (· == '.') (clean cs) = clean cs := by
    rw [clean, Text.dropEnd_point_lower, Text.dropEnd_dropEnd]
  calc clean (clean cs)
      = Text.lower (Text.dropEnd (· == '.') (clean cs)) := by rw [clean, Text.trim_eq_self h]
    _ = Text.lower (clean cs) := by rw [hends]
    _ = clean cs := by rw [clean, Text.lower_lower]

/-- A normal form is its own normal form. -/
theorem normalize?_of_normalize? {name n : String} (h : normalize? name = some n) :
    normalize? n = some n := by
  simp only [normalize?, Option.ite_none_right_eq_some, Option.some.injEq] at h
  obtain ⟨hv, rfl⟩ := h
  have hclean := clean_clean (isBlank_eq_false_of_isValid hv)
  simp only [normalize?, String.toList_ofList, hclean, if_pos hv]

/-- A star stands at the beginning and in front of a point. -/
theorem WellShaped.star_leads {cs front rest : List Char} (h : WellShaped cs)
    (hcs : cs = front ++ '*' :: rest) : front = [] ∧ ∃ s, rest = '.' :: s := by
  subst hcs
  cases front with
  | nil => exact ⟨rfl, h.point_after_star rest rfl⟩
  | cons c front => exact absurd (by simp) h.star_notMem_tail

end Sni

/-! ## Names of certificates -/

namespace CertificateIndex

/-- Whatever names two certificates serve, they are in normal form, without an end mark and with no
star but one in front of a first point. The names differ in their places; the place of a name that
is no wildcard begins that of no other name, and the place of a wildcard `*.s` begins exactly those
of the names that end, but for a star of their own, with `.s`. -/
theorem names_normal_and_places_faithful {c d : Certificate} {snis snis' : NameSet}
    (hc : c.sniSet = .ok snis) (hd : d.sniSet = .ok snis') {m n : String} (hm : m ∈ snis)
    (hn : n ∈ snis') :
    (Sni.normalize? m = some m ∧ Sni.endMark ∉ m.toList ∧
        ∀ front rest, m.toList = front ++ '*' :: rest → front = [] ∧ ∃ s, rest = '.' :: s) ∧
      (place m = place n → m = n) ∧
      (¬ Sni.IsWildcard m.toList → place m <+: place n → m = n) ∧
      ∀ s, m.toList = '*' :: '.' :: s →
        (place m <+: place n ↔ '.' :: s <:+ Sni.bare n.toList) := by
  have hshape : Sni.WellShaped m.toList := Certificate.wellShaped_of_mem_sniSet hc hm
  have hshape' : Sni.WellShaped n.toList := Certificate.wellShaped_of_mem_sniSet hd hn
  have hbegins := place_isPrefix_place_iff hshape hshape'
  refine ⟨⟨?_, hshape.endMark_notMem, fun front rest ↦ hshape.star_leads⟩,
    place_inj hshape hshape', ?_, ?_⟩
  · obtain ⟨name, hname⟩ := Certificate.normalize?_of_mem_sniSet hc hm
    exact Sni.normalize?_of_normalize? hname
  · intro hw hp
    obtain ⟨-, h⟩ | hcovers := hbegins.1 hp
    · exact h
    · exact absurd hcovers.isWildcard hw
  · intro s hs
    have hown : ¬ (¬ Sni.IsWildcard m.toList ∧ m = n) := fun h ↦ h.1 ⟨_, hs⟩
    rw [hbegins, or_iff_right hown, hs, Sni.covers_star_iff]

/-- A wildcard that is listed carelessly beside the name in a certificate, and a host below it that
another certificate is pinned to. -/
theorem wildcard_place_begins_host_place :
    let c : Certificate :=
      { chain := "-----BEGIN CERTIFICATE-----\nMFAwRgIBATADBgEqMAAwHhcNNzAwMTAxMDAwMDAw" ++
          "WhcNNzAwMTAxMDAwMDAwWjAQMQ4wDAYDVQQDDAVhLmNvbTAIMAMGASoDAQAwAwYBKgMBAA==\n" ++
          "-----END CERTIFICATE-----"
        snis := [" *.A.com. ", "x$a.com", "*.*.com", "10.0.0.1"] }
    let d : Certificate := { snis := ["X.a.com"], pinned := true }
    c.sniSet = .ok ["*.a.com", "10.0.0.1", "a.com"] ∧ d.sniSet = .ok ["x.a.com"] ∧
      Sni.normalize? "*.a.com" = some "*.a.com" ∧ place "*.a.com" <+: place "x.a.com" := by
  intro c d
  have heval : c.sniSet = .ok ["*.a.com", "10.0.0.1", "a.com"] ∧ d.sniSet = .ok ["x.a.com"] := by
    decide +kernel
  obtain ⟨hc, hd⟩ := heval
  have hm : "*.a.com" ∈ ["*.a.com", "10.0.0.1", "a.com"] := by simp
  have hn : "x.a.com" ∈ ["x.a.com"] := by simp
  obtain ⟨⟨hnormal, -⟩, -, -, hbegins⟩ := names_normal_and_places_faithful hc hd hm hn
  exact ⟨hc, hd, hnormal, (hbegins "a.com".toList (by decide)).2 (by decide)⟩

end CertificateIndex

end StageRelay
