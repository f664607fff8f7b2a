import StageRelay.Proofs.Index.Lookup

/-!
# Hosts that a name is not meant for

A name is meant for itself, and a wildcard `*.s` for what has something before `.s`. Whatever a
client sends is looked up, though, and two kinds of hosts are not kept out: one with an end mark in
it is also served under the name after the mark, and one that begins with a point under the wildcard
of just that. There are no others.
-/

namespace StageRelay

/-! ## Names that are found for a host -/

namespace Sni

/-- A host that a name is meant for: the name itself, or for a wildcard `*.s`, one with something
before `.s`. -/
def Fits (n host : List Char) : Prop :=
  ¬ IsWildcard n ∧ n = host ∨
    ∃ s front, n = '*' :: '.' :: s ∧ front ≠ [] ∧ host = front ++ '.' :: s

/-- A host that a name is found for though it is not meant for it: one that ends with the name after
an end mark, or with nothing in the place of a wildcard's star. -/
def Leaks (n host : List Char) : Prop :=
  ¬ IsWildcard n ∧ endMark :: n <:+ host ∨ n = '*' :: host

/-- A host that a name is meant for is not of the other kind. -/
theorem Fits.not_leaks {n host : List Char} (h : Fits n host) : ¬ Leaks n host := by
  rintro (⟨hw, hsuffix⟩ | rfl)
  · obtain ⟨-, rfl⟩ | ⟨s, front, rfl, -⟩ := h
    · exact absurd hsuffix.length_le (by simp)
    · exact hw ⟨_, rfl⟩
  · obtain ⟨hw, -⟩ | ⟨s, front, hn, hfront, rfl⟩ := h
    · exact hw ⟨_, rfl⟩
    · -- the host would be as long as what it ends with
      apply hfront
      simpa using hn

/-- What a wildcard covers has something before the point, or nothing. -/
theorem WellShaped.covers_iff {n host : List Char} (hn : WellShaped n) (hw : IsWildcard n) :
    Covers n host ↔ Fits n host ∨ Leaks n host := by
  constructor
  · rintro ⟨s, rfl, front, rfl⟩
    by_cases hfront : front = []
    · exact .inr (.inr (by rw [hfront, List.nil_append]))
    · exact .inl (.inr ⟨s, front, rfl, hfront, rfl⟩)
  · rintro ((⟨h, -⟩ | ⟨s, front, rfl, -, rfl⟩) | ⟨h, -⟩ | rfl)
    · exact absurd hw h
    · exact ⟨s, rfl, List.suffix_append _ _⟩
    · exact absurd hw h
    · obtain ⟨s, rfl⟩ := hn.point_after_star _ rfl
      exact ⟨s, rfl, List.suffix_rfl⟩

/-- The names that are found for a host, whatever is in it. -/
theorem WellShaped.patternKey_isPrefix_iff_fits_or_leaks {n host : List Char} (hn : WellShaped n) :
    patternKey n <+: host.reverse ++ [endMark] ↔ Fits n host ∨ Leaks n host := by
  by_cases hw : IsWildcard n
  · rw [hn.patternKey_isPrefix_iff_covers hw, hn.covers_iff hw]
  · have hstar (rest : List Char) : n ≠ '*' :: rest := fun h ↦ hw ⟨rest, h⟩
    simp [patternKey_isPrefix_iff_of_not_isWildcard hw, Fits, Leaks, hw, hstar]

end Sni

/-! ## Names that are served for a host -/

namespace CertificateIndex

open Sni (Fits Leaks)

variable {x : CertificateIndex}

theorem place_isPrefix_iff_fits_or_leaks {n host : String} (hn : Sni.WellShaped n.toList) :
    place n <+: Bytes.ofText (Sni.hostKey host.toList) ↔
      Fits n.toList (Sni.clean host.toList) ∨ Leaks n.toList (Sni.clean host.toList) := by
  rw [place, Bytes.ofText_isPrefix_iff, Sni.hostKey, hn.patternKey_isPrefix_iff_fits_or_leaks]

/-- A host is served if a claimed name is found for it, and then under such a name. -/
theorem Coherent.found_of_lookup (h : x.Coherent) (host : String) :
    match x.lookup host with
    | some m =>
      (∃ o, x.Claims o m.sni) ∧
        (Fits m.sni.toList (Sni.clean host.toList) ∨ Leaks m.sni.toList (Sni.clean host.toList))
    | none =>
      ∀ o n, x.Claims o n →
        ¬ (Fits n.toList (Sni.clean host.toList) ∨ Leaks n.toList (Sni.clean host.toList)) := by
  have hlongest := h.best?_longest host
  unfold lookup
  cases hb : x.best? host with
  | none =>
    rw [hb] at hlongest
    intro o n hn
    rw [← place_isPrefix_iff_fits_or_leaks (h.records.wellShaped hn)]
    exact hlongest o n hn
  | some e =>
    rw [hb] at hlongest
    obtain ⟨⟨⟨o, ho⟩, hp⟩, -⟩ := hlongest
    exact ⟨⟨o, ho⟩, (place_isPrefix_iff_fits_or_leaks (h.records.wellShaped ho)).1 hp⟩

/-- After any history and whatever a client sends, a host is served if and only if a claimed name is
found for it, and it is served under a name that is not meant for it exactly if the name follows an
end mark in the host, or the host is the wildcard without its star. -/
theorem fits_iff_not_leaks (ops : List Operation) (host : String) :
    let x := after ops
    let h := Sni.clean host.toList
    ((∃ m, x.lookup host = some m) ↔
        ∃ o n, x.Claims o n ∧ (Fits n.toList h ∨ Leaks n.toList h)) ∧
      ∀ m, x.lookup host = some m →
        (∃ o, x.Claims o m.sni) ∧
          (Fits m.sni.toList h ↔
            ¬ (¬ Sni.IsWildcard m.sni.toList ∧ Sni.endMark :: m.sni.toList <:+ h) ∧
              m.sni.toList ≠ '*' :: h) := by
  intro x h
  have hfound := Coherent.found_of_lookup (coherent_after ops) host
  have hnot (n : List Char) :
      ¬ Leaks n h ↔ ¬ (¬ Sni.IsWildcard n ∧ Sni.endMark :: n <:+ h) ∧ n ≠ '*' :: h := by
    rw [Leaks, not_or]
  constructor
  · constructor
    · rintro ⟨m, hm⟩
      rw [hm] at hfound
      obtain ⟨⟨o, ho⟩, hserved⟩ := hfound
      exact ⟨o, m.sni, ho, hserved⟩
    · rintro ⟨o, n, hn, hserved⟩
      cases hl : x.lookup host with
      | none =>
        rw [hl] at hfound
        exact absurd hserved (hfound o n hn)
      | some m => exact ⟨m, rfl⟩
  · intro m hm
    rw [hm] at hfound
    refine ⟨hfound.1, ?_⟩
    rw [← hnot]
    exact ⟨Fits.not_leaks, hfound.2.resolve_right⟩

/-- A host below a name is served under the wildcard of the name, which is meant for it. -/
theorem fits_below_wildcard :
    let c : Certificate := { key := "key", snis := ["a.com", "*.a.com"], pinned := true }
    let x := after [.insert ⟨{ gateway := "gateway", name := "stage" }, "object"⟩ c]
    x.lookup "x.a.com" = some ⟨"*.a.com", [c]⟩ ∧
      Fits "*.a.com".toList (Sni.clean "x.a.com".toList) := by
  intro c x
  have hl : x.lookup "x.a.com" = some ⟨"*.a.com", [c]⟩ := by decide +kernel
  obtain ⟨-, hserved⟩ := fits_iff_not_leaks
    [.insert ⟨{ gateway := "gateway", name := "stage" }, "object"⟩ c] "x.a.com"
  obtain ⟨-, hiff⟩ := hserved _ hl
  exact ⟨hl, hiff.2 (by decide)⟩

/-- The name after an end mark is served, and so is a wildcard for what is left of it without the
star. -/
theorem lookup_not_fits :
    let c : Certificate := { key := "key", snis := ["a.com", "*.a.com"], pinned := true }
    let x := after [.insert ⟨{ gateway := "gateway", name := "stage" }, "object"⟩ c]
    x.lookup "x$a.com" = some ⟨"a.com", [c]⟩ ∧
      ¬ Fits "a.com".toList (Sni.clean "x$a.com".toList) ∧
      x.lookup ".a.com" = some ⟨"*.a.com", [c]⟩ ∧
      ¬ Fits "*.a.com".toList (Sni.clean ".a.com".toList) := by
  refine ⟨by decide +kernel, fun h ↦ h.not_leaks (.inl ?_), by decide +kernel,
    fun h ↦ h.not_leaks (.inr ?_)⟩
  · decide
  · decide

end CertificateIndex

end StageRelay
