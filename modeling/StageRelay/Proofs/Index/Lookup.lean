import StageRelay.Proofs.Index.Invariant
import StageRelay.Proofs.Trie.Longest

/-!
# What is served for a host

The name that is served for a host is the host itself, if it is claimed, and else the longest
claimed wildcard that the host ends like. With it come the certificates of all objects that claim it,
or of one of them.
-/

namespace StageRelay.CertificateIndex

open Sni (Covers IsWildcard)

/-! ## The best name -/

/-- The name to serve for a host, of the claimed ones: the host before all wildcards, and longer
wildcards before shorter ones. -/
def IsBest (claimed : String → Prop) (host : List Char) : Option String → Prop
  | some m =>
    claimed m ∧ (¬ IsWildcard m.toList ∧ m.toList = host ∨
      Covers m.toList host ∧ (∀ n, claimed n → IsWildcard n.toList ∨ n.toList ≠ host) ∧
        ∀ n, claimed n → Covers n.toList host → n.length ≤ m.length)
  | none =>
    ∀ n, claimed n → (IsWildcard n.toList ∨ n.toList ≠ host) ∧ ¬ Covers n.toList host

/-- Which claimed names the trie finds for a host. -/
theorem place_isPrefix_iff {n host : String} (hn : Sni.WellShaped n.toList)
    (hh : Sni.endMark ∉ Sni.clean host.toList) :
    place n <+: Bytes.ofText (Sni.hostKey host.toList) ↔
      ¬ IsWildcard n.toList ∧ n.toList = Sni.clean host.toList ∨
        Covers n.toList (Sni.clean host.toList) := by
  rw [place, Bytes.ofText_isPrefix_iff, Sni.hostKey, hn.patternKey_isPrefix_iff hh]

/-- Names with longer places come first. -/
theorem isBest_of_longest {claimed : String → Prop} {m : String} {host : List Char}
    (hshape : ∀ {n}, claimed n → Sni.WellShaped n.toList) (hm : claimed m)
    (hserved : ¬ IsWildcard m.toList ∧ m.toList = host ∨ Covers m.toList host)
    (hmax : ∀ n, claimed n → (¬ IsWildcard n.toList ∧ n.toList = host ∨ Covers n.toList host) →
      Sni.patternKey n.toList <+: Sni.patternKey m.toList) : IsBest claimed host (some m) := by
  refine ⟨hm, hserved.imp_right fun hcovers ↦ ⟨hcovers, fun n hn ↦ ?_, fun n hn hc ↦ ?_⟩⟩
  · -- the key of the host itself ends with a mark that no wildcard has
    by_contra hexact
    obtain ⟨hw, heq⟩ := not_or.1 hexact
    have hprefix := hmax n hn (.inl ⟨hw, not_not.1 heq⟩)
    obtain ⟨rest, hrest⟩ := hcovers.isWildcard
    have hmark := (hrest ▸ hshape hm).endMark_notMem_patternKey
    apply hmark
    rw [← hrest]
    refine hprefix.subset ?_
    rw [Sni.patternKey_of_not_isWildcard hw]
    simp
  · have hle := (hmax n hn (.inr hc)).length_le
    obtain ⟨s, hs⟩ := hc.isWildcard
    obtain ⟨s', hs'⟩ := hcovers.isWildcard
    rw [hs, hs', Sni.patternKey_star, Sni.patternKey_star, List.length_reverse,
      List.length_reverse] at hle
    rw [← String.length_toList, ← String.length_toList, hs, hs']
    exact Nat.succ_le_succ hle

variable {x : CertificateIndex}

/-- The name that is served for a host is the one with the longest place that the host begins
with, of the claimed ones, and it is served for its owners. -/
theorem Coherent.best?_longest (h : x.Coherent) (host : String) :
    match x.best? host with
    | some (m, os) =>
      ((∃ o, x.Claims o m) ∧ place m <+: Bytes.ofText (Sni.hostKey host.toList)) ∧
        (∀ o n, x.Claims o n → place n <+: Bytes.ofText (Sni.hostKey host.toList) →
          place n <+: place m) ∧
        Owned (x.Claims · m) (some os)
    | none => ∀ o n, x.Claims o n → ¬ place n <+: Bytes.ofText (Sni.hostKey host.toList) := by
  have hfound {o : Identity} {n : String} (hn : x.Claims o n) : x.names.find? (place n) = some n :=
    h.records.find?_names.2 ⟨rfl, o, hn⟩
  have hlongest := x.names.isLongest_longest (Bytes.ofText (Sni.hostKey host.toList))
  unfold best?
  cases hl : x.names.longest (.ofText (Sni.hostKey host.toList)) with
  | none =>
    rw [hl] at hlongest
    intro o n hn hp
    have hnone := hlongest (place n) hp
    rw [hfound hn] at hnone
    cases hnone
  | some e =>
    obtain ⟨key, m⟩ := e
    rw [hl] at hlongest
    obtain ⟨hp, hm, hmax⟩ := hlongest
    obtain ⟨rfl, hclaimed⟩ := h.records.find?_names.1 hm
    obtain ⟨os, hos⟩ := h.records.exists_owners_iff.2 hclaimed
    have howned := h.records.owned m
    rw [hos] at howned
    simp only [Option.bind_eq_bind, Option.bind_some, hos, Option.pure_def]
    refine ⟨⟨hclaimed, hp⟩, fun o n hn hpn ↦ ?_, howned⟩
    exact List.prefix_of_prefix_length_le hpn hp (hmax (place n) n hpn (hfound hn))

/-- A host is served under the best name that is claimed, with the owners of that name. -/
theorem Coherent.best?_spec (h : x.Coherent) {host : String}
    (hh : Sni.endMark ∉ Sni.clean host.toList) :
    IsBest (fun n ↦ ∃ o, x.Claims o n) (Sni.clean host.toList) ((x.best? host).map Prod.fst) ∧
      ∀ e ∈ x.best? host, Owned (x.Claims · e.1) (some e.2) := by
  have hshape : ∀ {n}, (∃ o, x.Claims o n) → Sni.WellShaped n.toList :=
    fun ⟨_, ho⟩ ↦ h.records.wellShaped ho
  have hlongest := h.best?_longest host
  cases hb : x.best? host with
  | none =>
    rw [hb] at hlongest
    refine ⟨?_, nofun⟩
    rintro n ⟨o, hn⟩
    have hno := hlongest o n hn
    rw [place_isPrefix_iff (hshape ⟨o, hn⟩) hh] at hno
    grind
  | some e =>
    obtain ⟨m, os⟩ := e
    rw [hb] at hlongest
    obtain ⟨⟨hclaimed, hp⟩, hmax, howned⟩ := hlongest
    simp only [Option.map_some, Option.mem_def, Option.some.injEq, forall_eq']
    refine ⟨isBest_of_longest hshape hclaimed ((place_isPrefix_iff (hshape hclaimed) hh).1 hp) ?_,
      howned⟩
    rintro n ⟨o, hn⟩ hserved
    exact Bytes.ofText_isPrefix_iff.1
      (hmax o n hn ((place_isPrefix_iff (hshape ⟨o, hn⟩) hh).2 hserved))

/-! ## The certificates of the best name -/

theorem exists_certificate_of_claims {o : Identity} {n : String} (ho : x.Claims o n) :
    ∃ c, x.certificate? o = some c := by
  obtain ⟨t, ht, -⟩ := ho
  exact ⟨t.certificate, by simp [certificate?, ht]⟩

/-- Every owner has a certificate, so that none is left out. -/
theorem forall₂_certificates {n : String} {os : List Identity} (hos : ∀ o ∈ os, x.Claims o n) :
    List.Forall₂ (fun o c ↦ x.certificate? o = some c) os (os.filterMap x.certificate?) := by
  induction os with
  | nil => exact .nil
  | cons o os ih =>
    obtain ⟨ho, hos⟩ := List.forall_mem_cons.1 hos
    obtain ⟨c, hc⟩ := exists_certificate_of_claims ho
    rw [List.filterMap_cons_some hc]
    exact .cons hc (ih hos)

/-- Some candidate is drawn if there are any. -/
theorem exists_choose {α : Type} (draw : Draw) {as : List α} (h : as ≠ []) :
    ∃ a ∈ as, choose draw as = some a := by
  cases as with
  | nil => exact absurd rfl h
  | cons a rest => exact ⟨_, List.get_mem (a :: rest) (draw rest.length), rfl⟩

/-- After any history, a host is served under the best name that is claimed, and not served if there
is none. With the name come the certificates that its owners are tracked with, one for each owner,
or that of some owner, whichever is drawn. -/
theorem lookup_after (ops : List Operation) (draw : Draw) (host : String)
    (hh : Sni.endMark ∉ Sni.clean host.toList) :
    let x := after ops
    IsBest (fun n ↦ ∃ o, x.Claims o n) (Sni.clean host.toList) ((x.lookup host).map Match.sni) ∧
      (∀ m, x.lookup host = some m →
        m.certificates ≠ [] ∧
        (∃ os : List Identity, os.Nodup ∧ (∀ o, o ∈ os ↔ x.Claims o m.sni) ∧
          List.Forall₂ (fun o c ↦ x.certificate? o = some c) os m.certificates) ∧
        ∃ o c, x.Claims o m.sni ∧ x.certificate? o = some c ∧
          x.lookupOne draw host = some (m.sni, c)) ∧
      (x.lookupOne draw host = none ↔ x.lookup host = none) := by
  intro x
  have hx : x.Coherent := coherent_after ops
  obtain ⟨hbest, howned⟩ := hx.best?_spec hh
  constructor
  · rw [lookup, Option.map_map]
    exact hbest
  · cases hb : x.best? host with
    | none => simp [lookup, lookupOne, hb]
    | some e =>
      obtain ⟨n, os⟩ := e
      have hown : Owned (x.Claims · n) (some os) := howned (n, os) hb
      obtain ⟨hne, hnodup, hmem⟩ := hown
      obtain ⟨o, ho, hdrawn⟩ := exists_choose draw hne
      obtain ⟨c, hc⟩ := exists_certificate_of_claims ((hmem o).1 ho)
      have hall := forall₂_certificates fun o ho ↦ (hmem o).1 ho
      have hone : x.lookupOne draw host = some (n, c) := by
        simp [lookupOne, hb, hdrawn, hc]
      refine ⟨?_, by simp [hone, lookup, hb]⟩
      intro m hm
      obtain rfl : (⟨n, os.filterMap x.certificate?⟩ : Match) = m := by simpa [lookup, hb] using hm
      refine ⟨?_, ⟨os, hnodup, hmem, hall⟩, o, c, (hmem o).1 ho, hc, hone⟩
      intro (hnil : os.filterMap x.certificate? = [])
      rw [hnil] at hall
      exact hne (List.forall₂_nil_right_iff.1 hall)

/-- A host below a name, written carelessly, is served under the wildcard of the name. -/
theorem lookup_below_wildcard :
    let c : Certificate := { key := "key", snis := ["a.com", "*.a.com"], pinned := true }
    let x := after [.insert ⟨{ gateway := "gateway", name := "stage" }, "object"⟩ c]
    Sni.endMark ∉ Sni.clean " X.A.com. ".toList ∧
      x.lookup " X.A.com. " = some ⟨"*.a.com", [c]⟩ ∧
      IsBest (fun n ↦ ∃ o, x.Claims o n) "x.a.com".toList (some "*.a.com") := by
  intro c x
  have hh : Sni.endMark ∉ Sni.clean " X.A.com. ".toList := by decide
  have hl : x.lookup " X.A.com. " = some ⟨"*.a.com", [c]⟩ := by decide +kernel
  obtain ⟨hbest, -⟩ := lookup_after _ (fun _ ↦ 0) " X.A.com. " hh
  refine ⟨hh, hl, ?_⟩
  rw [hl] at hbest
  exact hbest

end StageRelay.CertificateIndex
