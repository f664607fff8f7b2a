import StageRelay.Index.Basic
import StageRelay.Proofs.Except

/-!
# The shape of server names

A server name has no end mark, and a star only in front of its first point. So it is whatever a
certificate says: every name that a certificate serves passed the check of `normalize?`.
-/

namespace StageRelay

/-! ## Pieces of a text -/

theorem Text.mem_splitOn {sep c : Char} {cs : List Char} (h : c ∈ cs) :
    c = sep ∨ ∃ piece ∈ Text.splitOn sep cs, c ∈ piece := by
  induction cs with
  | nil => cases h
  | cons d cs ih =>
    by_cases hd : d = sep
    · rcases List.mem_cons.1 h with rfl | h
      · exact .inl hd
      · rcases ih h with h | ⟨piece, hp, hc⟩
        · exact .inl h
        · exact .inr ⟨piece, by simp [Text.splitOn, hd, hp], hc⟩
    · rw [Text.splitOn, if_neg hd]
      cases hs : Text.splitOn sep cs with
      | nil =>
        rcases List.mem_cons.1 h with rfl | h
        · exact .inr ⟨[c], by simp, by simp⟩
        · exact (ih h).imp_right (by simp [hs])
      | cons first rest =>
        rcases List.mem_cons.1 h with rfl | h
        · exact .inr ⟨c :: first, by simp, by simp⟩
        · rcases ih h with h | ⟨piece, hp, hc⟩
          · exact .inl h
          · rw [hs] at hp
            rcases List.mem_cons.1 hp with rfl | hp
            · exact .inr ⟨d :: piece, by simp, by simp [hc]⟩
            · exact .inr ⟨piece, by simp [hp], hc⟩

/-! ## Characters of addresses -/

namespace Address

/-- Hexadecimal digits, colons and points. -/
def isAddressChar (c : Char) : Bool :=
  (Text.hexDigit? c).isSome || c == ':' || c == '.'

/-- What is left of a text after some characters of addresses. -/
def Reads (cs rest : List Char) : Prop :=
  ∃ used, cs = used ++ rest ∧ ∀ c ∈ used, isAddressChar c

theorem Reads.refl (cs : List Char) : Reads cs cs :=
  ⟨[], rfl, by simp⟩

theorem Reads.trans {cs ds es : List Char} (h : Reads cs ds) (h' : Reads ds es) : Reads cs es := by
  obtain ⟨used, rfl, hu⟩ := h
  obtain ⟨used', rfl, hu'⟩ := h'
  refine ⟨used ++ used', by simp, ?_⟩
  intro c hc
  rcases List.mem_append.1 hc with hc | hc
  · exact hu c hc
  · exact hu' c hc

theorem reads_after {c : Char} {cs rest : List Char} (hc : isAddressChar c)
    (h : after c cs = some rest) : Reads cs rest := by
  cases cs with
  | nil => cases h
  | cons d cs =>
    simp only [after, Option.ite_none_right_eq_some, Option.some.injEq] at h
    obtain ⟨rfl, rfl⟩ := h
    exact ⟨[d], rfl, by simpa using hc⟩

theorem reads_readNumber {digit? : Char → Option Nat} {base most n : Nat} {zeros : Bool}
    {cs rest : List Char} (hd : ∀ c, (digit? c).isSome → isAddressChar c)
    (h : readNumber digit? base most zeros cs = some (n, rest)) : Reads cs rest := by
  have hr : rest = cs.dropWhile fun c ↦ (digit? c).isSome := by
    grind [readNumber]
  refine ⟨cs.takeWhile fun c ↦ (digit? c).isSome, ?_, ?_⟩
  · rw [hr, List.takeWhile_append_dropWhile]
  · intro c hc
    exact hd c (List.all_eq_true.1 List.all_takeWhile c hc)

theorem isAddressChar_of_decimal (c : Char) (h : (decimalDigit? c).isSome) : isAddressChar c := by
  unfold decimalDigit? at h
  split at h
  · next hc => simp [isAddressChar, Text.hexDigit?, hc]
  · cases h

theorem isAddressChar_of_hex (c : Char) (h : (Text.hexDigit? c).isSome) : isAddressChar c := by
  simp [isAddressChar, h]

theorem reads_readOctet {cs rest : List Char} {n : Nat} (h : readOctet cs = some (n, rest)) :
    Reads cs rest := by
  simp only [readOctet, Option.bind_eq_bind, Option.bind_eq_some_iff] at h
  obtain ⟨⟨m, rest'⟩, hr, h⟩ := h
  simp only [Option.ite_none_right_eq_some, Option.some.injEq, Prod.mk.injEq] at h
  obtain ⟨-, rfl, rfl⟩ := h
  exact reads_readNumber isAddressChar_of_decimal hr

theorem reads_readV4 {cs rest : List Char} {q : Nat × Nat × Nat × Nat}
    (h : readV4 cs = some (q, rest)) : Reads cs rest := by
  simp only [readV4, Option.bind_eq_bind, Option.bind_eq_some_iff, Prod.exists, Option.pure_def,
    Option.some.injEq, Prod.mk.injEq] at h
  obtain ⟨_, _, h₁, _, p₁, _, _, h₂, _, p₂, _, _, h₃, _, p₃, _, _, h₄, -, rfl⟩ := h
  have hp : isAddressChar '.' := by decide
  exact (reads_readOctet h₁).trans <| (reads_after hp p₁).trans <| (reads_readOctet h₂).trans <|
    (reads_after hp p₂).trans <| (reads_readOctet h₃).trans <| (reads_after hp p₃).trans <|
    reads_readOctet h₄

theorem reads_atGroup {first : Bool} {cs rest : List Char} (h : atGroup first cs = some rest) :
    Reads cs rest := by
  cases first with
  | true => exact Option.some.inj h ▸ Reads.refl cs
  | false => exact reads_after (by decide) h

theorem reads_readGroups (count : Nat) (first : Bool) (cs : List Char) :
    Reads cs (readGroups count first cs).2.2 := by
  induction count generalizing first cs with
  | zero => exact Reads.refl cs
  | succ count ih =>
    rw [readGroups]
    split
    · next h =>
      obtain ⟨ds, hg, hv⟩ := Option.bind_eq_some_iff.1 h
      have hg' : atGroup first cs = some ds := by grind
      exact (reads_atGroup hg').trans (reads_readV4 hv)
    · split
      · exact Reads.refl cs
      · next h =>
        obtain ⟨ds, hg, hn⟩ := Option.bind_eq_some_iff.1 h
        exact (reads_atGroup hg).trans ((reads_readNumber isAddressChar_of_hex hn).trans (ih _ _))

theorem reads_readV6 {cs rest : List Char} {groups : List Nat}
    (h : readV6 cs = some (groups, rest)) : Reads cs rest := by
  have hc : isAddressChar ':' := by decide
  have hhead := reads_readGroups 8 true cs
  simp only [readV6] at h
  split at h
  · simp only [Option.pure_def, Option.some.injEq, Prod.mk.injEq] at h
    exact h.2 ▸ hhead
  · split at h
    · cases h
    · simp only [Option.bind_eq_bind, Option.bind_eq_some_iff, Option.pure_def, Option.some.injEq,
        Prod.mk.injEq] at h
      obtain ⟨ds, h₁, es, h₂, -, rfl⟩ := h
      exact hhead.trans <| (reads_after hc h₁).trans <| (reads_after hc h₂).trans <|
        reads_readGroups _ true es

/-- The text of an address has no other characters. -/
theorem isAddressChar_of_parse? {cs : List Char} (h : (parse? cs).isSome) :
    ∀ c ∈ cs, isAddressChar c := by
  have hr : Reads cs [] := by
    unfold parse? at h
    split at h
    · next hv =>
      have he := reads_readV4 hv
      grind
    · split at h
      · next hv => exact reads_readV6 hv
      · cases h
  obtain ⟨used, rfl, hu⟩ := hr
  simpa using hu

end Address

/-! ## Names -/

namespace Sni

/-- Texts without an end mark, whose only star may stand in front of a point at the beginning. -/
structure WellShaped (cs : List Char) : Prop where
  endMark_notMem : endMark ∉ cs
  star_notMem_tail : '*' ∉ cs.tail
  point_after_star : ∀ rest, cs = '*' :: rest → ∃ host, rest = '.' :: host

/-- The characters of labels and the points between them. -/
def isHostChar (c : Char) : Bool :=
  c == '.' || isLabelChar c

theorem isHostChar_of_isHost {cs : List Char} (h : isHost cs) : ∀ c ∈ cs, isHostChar c := by
  intro c hc
  simp only [isHost, Bool.and_eq_true, List.all_eq_true] at h
  have hsplit : c = '.' ∨ ∃ piece ∈ Text.splitOn '.' cs, c ∈ piece := Text.mem_splitOn hc
  rcases hsplit with rfl | ⟨piece, hp, hc⟩
  · rfl
  · have hl := h.2 piece hp
    simp only [isLabel, Bool.and_eq_true, List.all_eq_true] at hl
    simp [isHostChar, hl.2 c hc]

/-- A text of characters without the end mark and the star has the shape. -/
theorem WellShaped.of_chars {p : Char → Bool} {cs : List Char} (h : ∀ c ∈ cs, p c)
    (hm : p endMark = false) (hs : p '*' = false) : WellShaped cs where
  endMark_notMem hc := by simp [h _ hc] at hm
  star_notMem_tail hc := by simp [h _ (List.mem_of_mem_tail hc)] at hs
  point_after_star := by
    rintro rest rfl
    simp [h '*' (by simp)] at hs

theorem WellShaped.star {host : List Char} (h : ∀ c ∈ host, isHostChar c) :
    WellShaped ('*' :: '.' :: host) where
  endMark_notMem hc := by
    simp only [List.mem_cons] at hc
    rcases hc with hc | hc | hc
    · cases hc
    · cases hc
    · exact absurd (h _ hc) (by decide)
  star_notMem_tail hc := by
    rcases List.mem_cons.1 hc with hc | hc
    · cases hc
    · exact absurd (h _ hc) (by decide)
  point_after_star rest hr := ⟨host, (List.cons.inj hr).2.symm⟩

theorem wellShaped_of_isValid {cs : List Char} (h : isValid cs) : WellShaped cs := by
  rw [isValid, Bool.or_eq_true] at h
  rcases h with h | h
  · exact .of_chars (Address.isAddressChar_of_parse? h) (by decide) (by decide)
  · have hc := isHostChar_of_isHost h
    unfold dropStar at hc
    split at hc
    · exact .star hc
    · exact .of_chars hc (by decide) (by decide)

theorem wellShaped_of_normalize? {name n : String} (h : normalize? name = some n) :
    WellShaped n.toList := by
  simp only [normalize?, Option.ite_none_right_eq_some, Option.some.injEq] at h
  obtain ⟨hv, rfl⟩ := h
  simpa using wellShaped_of_isValid hv

end Sni

/-! ## Names of certificates -/

namespace Certificate

theorem normalize?_of_mem_namesIn {pem : String} {names : List String}
    (h : namesIn pem = .ok names) {n : String} (hn : n ∈ names) :
    ∃ name, Sni.normalize? name = some n := by
  obtain ⟨der?, -, h⟩ := Except.bind_eq_ok_iff.1 h
  split at h
  · cases h
  · split at h
    · split at h
      · rw [← Except.ok.inj h] at hn
        obtain ⟨cs, -, hname⟩ := List.mem_filterMap.1 hn
        exact ⟨_, hname⟩
      · cases h
    · cases h

theorem sniSet_of_pinned {c : Certificate} (h : c.pinned) :
    c.sniSet = .ok (.ofList (c.snis.filterMap Sni.normalize?)) := by
  unfold sniSet
  rw [if_pos h]
  rfl

theorem sniSet_of_not_pinned {c : Certificate} (h : ¬ c.pinned) :
    c.sniSet =
      (namesIn c.chain >>= fun own ↦ .ok (.ofList (own ++ c.snis.filterMap Sni.normalize?))) := by
  unfold sniSet
  rw [if_neg h]
  rfl

/-- Every name that a certificate serves is the normal form of some name. -/
theorem normalize?_of_mem_sniSet {c : Certificate} {snis : NameSet} (h : c.sniSet = .ok snis)
    {n : String} (hn : n ∈ snis) : ∃ name, Sni.normalize? name = some n := by
  by_cases hp : c.pinned
  · rw [sniSet_of_pinned hp] at h
    rw [← Except.ok.inj h, NameSet.mem_ofList] at hn
    obtain ⟨name, -, hname⟩ := List.mem_filterMap.1 hn
    exact ⟨name, hname⟩
  · rw [sniSet_of_not_pinned hp] at h
    obtain ⟨own, hown, h⟩ := Except.bind_eq_ok_iff.1 h
    rw [← Except.ok.inj h, NameSet.mem_ofList, List.mem_append] at hn
    rcases hn with hn | hn
    · exact normalize?_of_mem_namesIn hown hn
    · obtain ⟨name, -, hname⟩ := List.mem_filterMap.1 hn
      exact ⟨name, hname⟩

theorem wellShaped_of_mem_sniSet {c : Certificate} {snis : NameSet} (h : c.sniSet = .ok snis)
    {n : String} (hn : n ∈ snis) : Sni.WellShaped n.toList := by
  obtain ⟨name, hname⟩ := normalize?_of_mem_sniSet h hn
  exact Sni.wellShaped_of_normalize? hname

end Certificate

end StageRelay
