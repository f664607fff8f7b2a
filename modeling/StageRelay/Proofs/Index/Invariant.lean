import StageRelay.Proofs.Assoc
import StageRelay.Proofs.Dict
import StageRelay.Proofs.Sni.Key
import StageRelay.Proofs.Trie.Entries

/-!
# The invariant of a certificate index

The certificates tell which objects claim which names. The owners of the names and the trie only
record these claims: a name has an entry from its first owner on and until its last one goes.

A claim is granted or revoked one at a time. The steps are stated for claims that are given as a
relation, as the names of a certificate change before the certificate itself does.
-/

namespace StageRelay.CertificateIndex

/-- An object claims the names that it is tracked with. -/
def Claims (x : CertificateIndex) (o : Identity) (n : String) : Prop :=
  ∃ t, x.tracked.find? o = some t ∧ n ∈ t.snis

/-- The names that an object is tracked with. -/
def snisOf (x : CertificateIndex) (o : Identity) : NameSet :=
  ((x.tracked.find? o).map Tracked.snis).getD []

theorem mem_snisOf {x : CertificateIndex} {o : Identity} {n : String} :
    n ∈ x.snisOf o ↔ x.Claims o n := by
  cases h : x.tracked.find? o <;> simp [snisOf, Claims, h]

/-- What is recorded for a name: the objects that claim it, each once, and nothing for a name that
no object claims. -/
def Owned (claims : Identity → Prop) : Option (List Identity) → Prop
  | some os => os ≠ [] ∧ os.Nodup ∧ ∀ o, o ∈ os ↔ claims o
  | none => ∀ o, ¬ claims o

/-- The owners and the trie record the given claims and no others. -/
structure Records (x : CertificateIndex) (claims : Identity → String → Prop) : Prop where
  owners_sorted : x.owners.Sorted
  names_ordered : x.names.Ordered
  wellShaped : ∀ {o n}, claims o n → Sni.WellShaped n.toList
  owned : ∀ n, Owned (claims · n) (x.owners.find? n)
  find?_names : ∀ {key n}, x.names.find? key = some n ↔ key = place n ∧ ∃ o, claims o n

theorem Owned.exists_claim {claims : Identity → Prop} {os : List Identity}
    (h : Owned claims (some os)) : ∃ o, claims o := by
  obtain ⟨o, ho⟩ := List.exists_mem_of_ne_nil os h.1
  exact ⟨o, (h.2.2 o).1 ho⟩

namespace Records

variable {x : CertificateIndex} {claims claims' : Identity → String → Prop}

theorem empty : Records {} fun _ _ ↦ False where
  owners_sorted := Dict.sorted_nil
  names_ordered := Trie.empty_ordered
  wellShaped h := h.elim
  owned _ _ := id
  find?_names := by simp [Trie.find?_empty]

theorem congr (h : x.Records claims) (hc : ∀ o n, claims' o n ↔ claims o n) :
    x.Records claims' := by
  obtain rfl : claims' = claims := funext₂ fun o n ↦ propext (hc o n)
  exact h

theorem of_eq {y : CertificateIndex} (h : x.Records claims) (ho : y.owners = x.owners)
    (hn : y.names = x.names) : y.Records claims where
  owners_sorted := ho ▸ h.owners_sorted
  names_ordered := hn ▸ h.names_ordered
  wellShaped := h.wellShaped
  owned := ho ▸ h.owned
  find?_names := hn ▸ h.find?_names

/-! ## Changes at one name

Claims that differ at one name only are recorded by a change at that name: of its owners, if it
has some before and after, and else also of its place in the trie. -/

section Change

variable {n : String} (h : x.Records claims)
  (hother : ∀ n', n' ≠ n → ∀ o, claims' o n' ↔ claims o n')
include h hother

theorem wellShaped_of_change (hn : ∀ o, claims' o n → Sni.WellShaped n.toList) {o : Identity}
    {n' : String} (hc : claims' o n') : Sni.WellShaped n'.toList := by
  by_cases hn' : n' = n
  · subst hn'
    exact hn o hc
  · exact h.wellShaped ((hother n' hn' o).1 hc)

theorem owned_insert {os : List Identity} (hos : Owned (claims' · n) (some os)) (n' : String) :
    Owned (claims' · n') ((x.owners.insert n os).find? n') := by
  by_cases hn' : n' = n
  · subst hn'
    simpa using hos
  · rw [Dict.find?_insert, if_neg hn', funext fun o ↦ propext (hother n' hn' o)]
    exact h.owned n'

theorem owned_erase (hno : ∀ o, ¬ claims' o n) (n' : String) :
    Owned (claims' · n') ((Dict.erase n x.owners).find? n') := by
  by_cases hn' : n' = n
  · subst hn'
    rw [h.owners_sorted.find?_erase, if_pos rfl]
    exact hno
  · rw [h.owners_sorted.find?_erase, if_neg hn', funext fun o ↦ propext (hother n' hn' o)]
    exact h.owned n'

/-- Away from the name's place, the trie holds what it held. -/
theorem find?_names_of_ne {key : Bytes} (hkey : key ≠ place n) {n' : String} :
    x.names.find? key = some n' ↔ key = place n' ∧ ∃ o, claims' o n' := by
  rw [h.find?_names]
  refine and_congr_right fun hp ↦ exists_congr fun o ↦ (hother n' ?_ o).symm
  rintro rfl
  exact hkey hp

/-- The name had no owner and has one now. -/
theorem add (hn : Sni.WellShaped n.toList) {os : List Identity}
    (hos : Owned (claims' · n) (some os)) :
    Records { x with owners := x.owners.insert n os, names := x.names.insert (place n) n }
      claims' where
  owners_sorted := h.owners_sorted.insert n os
  names_ordered := Trie.insert_ordered h.names_ordered _ _
  wellShaped := h.wellShaped_of_change hother fun _ _ ↦ hn
  owned := h.owned_insert hother hos
  find?_names {key n'} := by
    rw [Trie.find?_insert h.names_ordered]
    by_cases hkey : key = place n
    · subst hkey
      rw [if_pos rfl, Option.some.injEq]
      constructor
      · rintro rfl
        exact ⟨rfl, hos.exists_claim⟩
      · rintro ⟨hp, o, ho⟩
        exact place_inj hn (h.wellShaped_of_change hother (fun _ _ ↦ hn) ho) hp
    · rw [if_neg hkey]
      exact h.find?_names_of_ne hother hkey

/-- The name had owners and has others now. -/
theorem change {old os : List Identity} (hold : x.owners.find? n = some old)
    (hos : Owned (claims' · n) (some os)) :
    Records { x with owners := x.owners.insert n os } claims' := by
  have hsome : ∃ o, claims o n := Owned.exists_claim (hold ▸ h.owned n)
  refine ⟨h.owners_sorted.insert n os, h.names_ordered,
    h.wellShaped_of_change hother fun _ _ ↦ h.wellShaped hsome.choose_spec,
    h.owned_insert hother hos, ?_⟩
  intro key n'
  rw [h.find?_names]
  refine and_congr_right fun _ ↦ ?_
  by_cases hn' : n' = n
  · subst hn'
    exact iff_of_true hsome hos.exists_claim
  · exact exists_congr fun o ↦ (hother n' hn' o).symm

/-- The name had owners and has none now. -/
theorem drop {old : List Identity} (hold : x.owners.find? n = some old)
    (hno : ∀ o, ¬ claims' o n) :
    Records { x with owners := Dict.erase n x.owners, names := x.names.erase (place n) }
      claims' where
  owners_sorted := h.owners_sorted.erase n
  names_ordered := Trie.erase_ordered h.names_ordered _
  wellShaped := h.wellShaped_of_change hother fun o ho ↦ (hno o ho).elim
  owned := h.owned_erase hother hno
  find?_names {key n'} := by
    obtain ⟨o, ho⟩ : ∃ o, claims o n := Owned.exists_claim (hold ▸ h.owned n)
    rw [Trie.find?_erase h.names_ordered]
    by_cases hkey : key = place n
    · subst hkey
      rw [if_pos rfl]
      refine iff_of_false nofun ?_
      rintro ⟨hp, o', ho'⟩
      have hshape := h.wellShaped_of_change hother (fun o ho ↦ (hno o ho).elim) ho'
      obtain rfl := place_inj (h.wellShaped ho) hshape hp
      exact hno o' ho'
    · rw [if_neg hkey]
      exact h.find?_names_of_ne hother hkey

end Change

/-! ## Granting and revoking -/

theorem grant (h : x.Records claims) (o : Identity) {n : String} (hn : Sni.WellShaped n.toList) :
    (x.grant o n).Records fun o' n' ↦ claims o' n' ∨ o' = o ∧ n' = n := by
  have hother : ∀ n', n' ≠ n → ∀ o', (claims o' n' ∨ o' = o ∧ n' = n) ↔ claims o' n' := by
    intro n' hn' o'
    simp [hn']
  have hown := h.owned n
  unfold CertificateIndex.grant
  cases hos : x.owners.find? n with
  | none =>
    rw [hos] at hown
    exact h.add hother hn ⟨by simp, by simp, fun o' ↦ by simp [hown o']⟩
  | some os =>
    rw [hos] at hown
    obtain ⟨hne, hnodup, hmem⟩ := hown
    refine h.change hother hos ?_
    split
    · next ho => exact ⟨hne, hnodup, fun o' ↦ by grind⟩
    · next ho =>
      refine ⟨by simp, ?_, fun o' ↦ by simp [hmem]⟩
      simpa using hnodup.concat ho

theorem revoke (h : x.Records claims) (o : Identity) (n : String) :
    (x.revoke o n).Records fun o' n' ↦ claims o' n' ∧ ¬ (o' = o ∧ n' = n) := by
  have hother : ∀ n', n' ≠ n → ∀ o', (claims o' n' ∧ ¬ (o' = o ∧ n' = n)) ↔ claims o' n' := by
    intro n' hn' o'
    simp [hn']
  have hown := h.owned n
  unfold CertificateIndex.revoke
  cases hos : x.owners.find? n with
  | none =>
    rw [hos] at hown
    refine h.congr fun o' n' ↦ and_iff_left_of_imp ?_
    rintro hc ⟨-, rfl⟩
    exact hown o' hc
  | some os =>
    rw [hos] at hown
    obtain ⟨-, hnodup, hmem⟩ := hown
    have hleft : ∀ o', o' ∈ os.filter (· ≠ o) ↔ claims o' n ∧ ¬ (o' = o ∧ n = n) := by
      simp [hmem]
    have hnodup := hnodup.filter (· ≠ o)
    dsimp only
    split
    · next hnil =>
      refine h.drop hother hos ?_
      intro o' ho'
      have hm := (hleft o').2 ho'
      rw [hnil] at hm
      cases hm
    · next hne => exact h.change hother hos ⟨hne, hnodup, hleft⟩

theorem foldl_grant (h : x.Records claims) (o : Identity) {ns : NameSet}
    (hns : ∀ n ∈ ns, Sni.WellShaped n.toList) :
    (ns.foldl (CertificateIndex.grant o) x).Records
      fun o' n' ↦ claims o' n' ∨ o' = o ∧ n' ∈ ns := by
  induction ns generalizing x claims with
  | nil => exact h.congr fun o' n' ↦ by simp
  | cons n ns ih =>
    obtain ⟨hn, hns⟩ := List.forall_mem_cons.1 hns
    exact (ih (h.grant o hn) hns).congr fun o' n' ↦ by grind

theorem foldl_revoke (h : x.Records claims) (o : Identity) (ns : NameSet) :
    (ns.foldl (CertificateIndex.revoke o) x).Records
      fun o' n' ↦ claims o' n' ∧ ¬ (o' = o ∧ n' ∈ ns) := by
  induction ns generalizing x claims with
  | nil => exact h.congr fun o' n' ↦ by simp
  | cons n ns ih => exact (ih (h.revoke o n)).congr fun o' n' ↦ by grind

/-- A name is recorded exactly if someone claims it. -/
theorem exists_owners_iff (h : x.Records claims) {n : String} :
    (∃ os, x.owners.find? n = some os) ↔ ∃ o, claims o n := by
  have hown := h.owned n
  cases hos : x.owners.find? n with
  | none =>
    rw [hos] at hown
    exact iff_of_false nofun (not_exists.2 hown)
  | some os =>
    rw [hos] at hown
    exact iff_of_true ⟨os, rfl⟩ hown.exists_claim

/-- The trie lists the recorded names at their places. -/
theorem perm_names (h : x.Records claims) :
    x.names.toList.Perm (x.owners.map fun e ↦ (place e.1, e.1)) := by
  have hplaces : (x.owners.map fun e ↦ (place e.1, e.1)).Nodup := by
    refine List.pairwise_map.2 (h.owners_sorted.imp ?_)
    intro e f hlt heq
    exact String.lt_irrefl f.1 ((Prod.mk.inj heq).2 ▸ hlt)
  refine (List.perm_ext_iff_of_nodup (Trie.nodup_keys h.names_ordered).of_map hplaces).2 ?_
  rintro ⟨key, n⟩
  rw [Trie.mem_toList_iff h.names_ordered, h.find?_names, ← h.exists_owners_iff, List.mem_map]
  simp only [h.owners_sorted.find?_eq_some_iff]
  constructor
  · rintro ⟨rfl, os, hos⟩
    exact ⟨(n, os), hos, rfl⟩
  · rintro ⟨⟨m, os⟩, hos, heq⟩
    obtain ⟨rfl, rfl⟩ := Prod.mk.inj heq
    exact ⟨rfl, os, hos⟩

end Records

/-! ## Coherent indices -/

/-- The certificates are served under their own names, and the other maps record who claims what. -/
structure Coherent (x : CertificateIndex) : Prop where
  distinct : x.tracked.Distinct
  served : ∀ {o t}, x.tracked.find? o = some t →
    t.snis ≠ [] ∧ t.certificate.sniSet = .ok t.snis ∧ t.certificate.isKeyEncrypted = false
  records : x.Records x.Claims

@[simp] theorem tracked_grant (o : Identity) (x : CertificateIndex) (n : String) :
    (x.grant o n).tracked = x.tracked := by
  unfold grant
  split <;> rfl

@[simp] theorem tracked_revoke (o : Identity) (x : CertificateIndex) (n : String) :
    (x.revoke o n).tracked = x.tracked := by
  unfold revoke
  split
  · rfl
  · split <;> rfl

@[simp] theorem tracked_foldl_grant (o : Identity) (x : CertificateIndex) (ns : NameSet) :
    (ns.foldl (grant o) x).tracked = x.tracked := by
  induction ns generalizing x with
  | nil => rfl
  | cons n ns ih => simp [ih]

@[simp] theorem tracked_foldl_revoke (o : Identity) (x : CertificateIndex) (ns : NameSet) :
    (ns.foldl (revoke o) x).tracked = x.tracked := by
  induction ns generalizing x with
  | nil => rfl
  | cons n ns ih => simp [ih]

@[simp] theorem find?_tracked_untrack (x : CertificateIndex) (owner o : Identity) :
    (x.untrack owner).2.tracked.find? o =
      if o = owner then none else x.tracked.find? o := by
  unfold untrack
  split
  · next h =>
    split
    · next ho => exact ho ▸ h
    · rfl
  · simp

@[simp] theorem find?_tracked_track (x : CertificateIndex) (owner : Identity) (new : Tracked)
    (o : Identity) :
    (x.track owner new).2.tracked.find? o =
      if o = owner then some new else x.tracked.find? o := by
  simp [track]

namespace Coherent

variable {x : CertificateIndex}

theorem empty : Coherent {} where
  distinct := Assoc.distinct_nil
  served h := by cases h
  records := Records.empty.congr fun o n ↦ by simp [Claims]

/-- An object that is forgotten claims nothing any more. -/
theorem untrack (h : x.Coherent) (owner : Identity) : (x.untrack owner).2.Coherent := by
  have hfind (o : Identity) := x.find?_tracked_untrack owner o
  unfold CertificateIndex.untrack at hfind ⊢
  cases hold : x.tracked.find? owner with
  | none => exact h
  | some old =>
    rw [hold] at hfind
    refine ⟨by simpa using h.distinct.erase owner, ?_, ?_⟩
    · intro o t ht
      rw [hfind, Option.ite_none_left_eq_some] at ht
      exact h.served ht.2
    · have hx : Records { x with tracked := x.tracked.erase owner } x.Claims :=
        h.records.of_eq rfl rfl
      refine (hx.foldl_revoke owner old.snis).congr ?_
      intro o n
      simp only [Claims, hfind]
      by_cases ho : o = owner
      · simp [ho, hold]
      · simp [ho]

/-- An object that is stored claims its new names, and no longer those old ones that are not among
them. -/
theorem track (h : x.Coherent) (owner : Identity) {new : Tracked} (hne : new.snis ≠ [])
    (hsni : new.certificate.sniSet = .ok new.snis)
    (hkey : new.certificate.isKeyEncrypted = false) : (x.track owner new).2.Coherent where
  distinct := by simpa [CertificateIndex.track] using h.distinct.insert owner new
  served {o t} ht := by
    rw [find?_tracked_track] at ht
    split at ht
    · exact Option.some.inj ht ▸ ⟨hne, hsni, hkey⟩
    · exact h.served ht
  records := by
    have hnew : ∀ n ∈ new.snis.diff (x.snisOf owner), Sni.WellShaped n.toList :=
      fun n hn ↦ Certificate.wellShaped_of_mem_sniSet hsni (NameSet.mem_diff.1 hn).1
    have hrevoked := h.records.foldl_revoke owner ((x.snisOf owner).diff new.snis)
    have hgranted := hrevoked.foldl_grant owner hnew
    have hafter : (x.track owner new).2.Records _ := hgranted.of_eq rfl rfl
    refine hafter.congr ?_
    intro o n
    rw [Claims, find?_tracked_track, NameSet.mem_diff, NameSet.mem_diff]
    by_cases ho : o = owner
    · subst ho
      simp only [mem_snisOf, if_pos, Option.some.injEq]
      grind
    · simp [ho, Claims]

theorem insert (h : x.Coherent) (key : ResourceKey) (c : Certificate) :
    (x.insert key c).2.Coherent := by
  unfold CertificateIndex.insert
  split
  · exact h.untrack key.identity
  · next hkey =>
    split
    · exact h
    · next snis hsni =>
      split
      · exact h.untrack key.identity
      · next hne => exact h.track key.identity (by simpa using hne) hsni (by simpa using hkey)

theorem perform (h : x.Coherent) (op : Operation) : (x.perform op).2.Coherent := by
  cases op with
  | insert key c => exact h.insert key c
  | update key c => exact h.insert key c
  | erase key => exact h.untrack key.identity

theorem foldl_perform (h : x.Coherent) (ops : List Operation) :
    (ops.foldl (fun x op ↦ (x.perform op).2) x).Coherent := by
  induction ops generalizing x with
  | nil => exact h
  | cons op ops ih => exact ih (h.perform op)

end Coherent

/-- Every history of operations leads to a coherent index. -/
theorem coherent_after (ops : List Operation) : (after ops).Coherent :=
  Coherent.empty.foldl_perform ops

/-- What fails changes nothing. -/
theorem insert_of_error {x : CertificateIndex} {key : ResourceKey} {c : Certificate}
    {e : CertificateError} (h : (x.insert key c).1 = .error e) : (x.insert key c).2 = x := by
  unfold insert at h ⊢
  split
  · next hkey => simp [hkey] at h
  · next hkey =>
    cases hsni : c.sniSet with
    | error e' => rfl
    | ok snis =>
      rw [if_neg hkey, hsni] at h
      dsimp only at h
      split at h <;> cases h

theorem perform_of_error {x : CertificateIndex} {op : Operation} {e : CertificateError}
    (h : (x.perform op).1 = .error e) : (x.perform op).2 = x := by
  cases op with
  | insert key c => exact insert_of_error h
  | update key c => exact insert_of_error h
  | erase key => cases h

/-- After any history, each of the three maps has one entry for a key, and they agree: the owners of
a name are the objects that are tracked with it, no name is left without owners, the trie holds
the names with owners at their places, and what is tracked are certificates without encrypted
keys under all their names, of which there are some. An operation that fails changes none of
the maps. -/
theorem maps_agree_after (ops : List Operation) :
    let x := after ops
    (x.tracked.Distinct ∧ x.owners.Sorted ∧ (x.names.toList.map Prod.fst).Nodup) ∧
      (∀ n o, (∃ os, x.owners.find? n = some os ∧ o ∈ os) ↔ x.Claims o n) ∧
      (∀ e ∈ x.owners, e.2 ≠ [] ∧ e.2.Nodup) ∧
      (x.names.toList.Perm (x.owners.map fun e ↦ (place e.1, e.1)) ∧
        x.names.size = x.owners.length) ∧
      (∀ e ∈ x.tracked, e.2.snis ≠ [] ∧ e.2.certificate.sniSet = .ok e.2.snis ∧
        e.2.certificate.isKeyEncrypted = false) ∧
      ∀ op e, (x.perform op).1 = .error e → (x.perform op).2 = x := by
  intro x
  have h : x.Coherent := coherent_after ops
  have hperm := h.records.perm_names
  refine ⟨⟨h.distinct, h.records.owners_sorted, Trie.nodup_keys h.records.names_ordered⟩,
    ?_, ?_, ⟨hperm, ?_⟩, ?_, fun op e ↦ perform_of_error⟩
  · intro n o
    have hown := h.records.owned n
    cases hos : x.owners.find? n with
    | none =>
      rw [hos] at hown
      exact iff_of_false nofun (hown o)
    | some os =>
      rw [hos] at hown
      simpa using hown.2.2 o
  · intro e he
    have hown := h.records.owned e.1
    rw [h.records.owners_sorted.find?_eq_some_iff.2 he] at hown
    exact ⟨hown.1, hown.2.1⟩
  · rw [← Trie.length_toList, hperm.length_eq, List.length_map]
  · intro e he
    exact h.served (h.distinct.find?_eq_some_iff.2 he)

end StageRelay.CertificateIndex
