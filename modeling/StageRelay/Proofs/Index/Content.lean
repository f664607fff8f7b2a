import StageRelay.Proofs.Index.Directory
import StageRelay.Proofs.Index.Lookup

/-!
# An index and its last operations

What is tracked tells everything about a coherent index: its owners, its trie and what it serves.
And of a history, only the last operation on each object that did not fail tells what is tracked.
So histories that end alike for each object lead to the same index, whatever their order.
-/

namespace StageRelay.CertificateIndex

/-! ## Indices that are the same -/

/-- Two indices hold the same entries and serve the same certificates; the order in which they
list the owners of a name is left open. -/
structure Alike (x y : CertificateIndex) : Prop where
  tracked : ∀ k, x.tracked.find? k = y.tracked.find? k
  owners : ∀ n, Option.Rel List.Perm (x.owners.find? n) (y.owners.find? n)
  names : ∀ place, x.names.find? place = y.names.find? place
  size : x.size = y.size
  lookup : ∀ host, Option.Rel (fun m m' ↦ m.sni = m'.sni ∧ m.certificates.Perm m'.certificates)
    (x.lookup host) (y.lookup host)

section Coherent

variable {x y : CertificateIndex}

theorem Owned.perm {claims : Identity → Prop} {os os' : Option (List Identity)}
    (h : Owned claims os) (h' : Owned claims os') : Option.Rel List.Perm os os' := by
  cases os with
  | none =>
    cases os' with
    | none => exact .none
    | some os' =>
      obtain ⟨o, ho⟩ := h'.exists_claim
      exact absurd ho (h o)
  | some os =>
    cases os' with
    | none =>
      obtain ⟨o, ho⟩ := h.exists_claim
      exact absurd ho (h' o)
    | some os' =>
      exact .some ((List.perm_ext_iff_of_nodup h.2.1 h'.2.1).2
        fun o ↦ (h.2.2 o).trans (h'.2.2 o).symm)

/-- The name that matches best is found from the trie alone, and its owners come from the other
map. -/
theorem best?_congr (howners : ∀ n, Option.Rel List.Perm (x.owners.find? n) (y.owners.find? n))
    (hnames : ∀ place, x.names.find? place = y.names.find? place) (host : String) :
    Option.Rel (fun b b' ↦ b.1 = b'.1 ∧ b.2.Perm b'.2) (x.best? host) (y.best? host) := by
  have hx := x.names.isLongest_longest (.ofText (Sni.hostKey host.toList))
  have hy := y.names.isLongest_longest (.ofText (Sni.hostKey host.toList))
  rw [funext hnames] at hx
  rw [best?, best?, hx.unique hy]
  cases y.names.longest (.ofText (Sni.hostKey host.toList)) with
  | none => exact .none
  | some e =>
    have hos := howners e.2
    simp only [Option.bind_eq_bind, Option.bind_some]
    generalize x.owners.find? e.2 = os, y.owners.find? e.2 = os' at hos
    cases hos with
    | none => exact .none
    | some hperm => exact .some ⟨rfl, hperm⟩

/-- Coherent indices are the same if they track the same. -/
theorem Coherent.alike (hx : x.Coherent) (hy : y.Coherent)
    (h : ∀ k, x.tracked.find? k = y.tracked.find? k) : x.Alike y := by
  have hclaims : x.Claims = y.Claims := by
    funext o n
    simp only [Claims, h]
  have howners (n : String) : Option.Rel List.Perm (x.owners.find? n) (y.owners.find? n) :=
    (hx.records.owned n).perm (hclaims ▸ hy.records.owned n)
  have hnames (place : Bytes) : x.names.find? place = y.names.find? place := by
    ext n
    rw [hx.records.find?_names, hy.records.find?_names, hclaims]
  refine ⟨h, howners, hnames, List.Perm.length_eq ?_, ?_⟩
  · refine (List.perm_ext_iff_of_nodup (.of_map _ hx.distinct) (.of_map _ hy.distinct)).2 ?_
    rintro ⟨k, t⟩
    rw [← hx.distinct.find?_eq_some_iff, ← hy.distinct.find?_eq_some_iff, h]
  · intro host
    have hcertificate : x.certificate? = y.certificate? := by
      funext k
      rw [certificate?, certificate?, h]
    have hbest := best?_congr howners hnames host
    rw [CertificateIndex.lookup, CertificateIndex.lookup, hcertificate]
    generalize x.best? host = b, y.best? host = b' at hbest
    cases hbest with
    | none => exact .none
    | some hb => exact .some ⟨hb.1, hb.2.filterMap y.certificate?⟩

end Coherent

/-! ## Operations -/

/-- The object that an operation is about. -/
def Operation.identity : Operation → Identity
  | insert key _ | update key _ | erase key => key.identity

/-- The certificate that an operation stores. -/
def Operation.certificate? : Operation → Option Certificate
  | insert _ c | update _ c => some c
  | erase _ => none

/-- An operation that succeeds decides what is tracked for its object, and one that fails
changes nothing. -/
theorem find?_tracked_perform (x : CertificateIndex) (op : Operation) (k : Identity) :
    (x.perform op).2.tracked.find? k =
      match (x.perform op).1 with
      | .ok _ =>
        if k = op.identity then op.certificate?.bind Certificate.tracked?
        else x.tracked.find? k
      | .error _ => x.tracked.find? k := by
  cases hop : (x.perform op).1 with
  | error e => rw [perform_of_error hop]
  | ok changed =>
    cases op with
    | insert key c => exact find?_tracked_insert hop k
    | update key c => exact find?_tracked_insert hop k
    | erase key => exact find?_tracked_erase x key k

/-- What an operation answers depends on what is tracked for its object. -/
theorem perform_congr {x y : CertificateIndex} {op : Operation}
    (h : x.tracked.find? op.identity = y.tracked.find? op.identity) :
    (x.perform op).1 = (y.perform op).1 := by
  have store (key : ResourceKey) (c : Certificate)
      (h : x.tracked.find? key.identity = y.tracked.find? key.identity) :
      (x.insert key c).1 = (y.insert key c).1 := by
    unfold insert
    split
    · rfl
    · split
      · rfl
      · split
        · rfl
        · simp [track, h]
  cases op with
  | insert key c => exact store key c h
  | update key c => exact store key c h
  | erase key =>
    have hcongr : (x.erase key).1 = (y.erase key).1 := by
      rw [erase_tells, erase_tells]
      exact congrArg Option.isSome h
    exact congrArg Except.ok hcongr

/-! ## Repetition -/

/-- Whether a certificate can be stored depends on the certificate alone. -/
theorem insert_eq_error_iff {x : CertificateIndex} {key : ResourceKey} {c : Certificate}
    {e : CertificateError} :
    (x.insert key c).1 = .error e ↔ c.isKeyEncrypted = false ∧ c.sniSet = .error e := by
  unfold insert
  cases hkey : c.isKeyEncrypted with
  | true => simp
  | false => rcases hs : c.sniSet with e' | (- | ⟨n, ns⟩) <;> simp

theorem track_idle {x : CertificateIndex} {owner : Identity} {t : Tracked}
    (h : x.tracked.find? owner = some t) : x.track owner t = (false, x) := by
  have hdiff : t.snis.diff t.snis = [] := by simp [NameSet.diff]
  simp [track, h, hdiff, Assoc.insert_eq_self h]

theorem untrack_idle {x : CertificateIndex} {owner : Identity}
    (h : x.tracked.find? owner = none) : x.untrack owner = (false, x) := by
  rw [untrack, h]

/-- Storing a certificate for which the index tracks what it should changes nothing. -/
theorem insert_idle {x : CertificateIndex} {key : ResourceKey} {c : Certificate} {changed : Bool}
    (h : x.tracked.find? key.identity = c.tracked?) (hok : (x.insert key c).1 = .ok changed) :
    x.insert key c = (.ok false, x) := by
  unfold insert at hok ⊢
  unfold Certificate.tracked? at h
  split
  · next hkey =>
    rw [if_pos hkey] at h
    rw [untrack_idle h]
  · next hkey =>
    rw [if_neg hkey] at h hok
    rcases hs : c.sniSet with e | (- | ⟨n, ns⟩)
    · rw [hs] at hok
      cases hok
    · rw [hs] at h
      simp only [List.isEmpty_nil, if_true]
      rw [untrack_idle h]
    · rw [hs] at h
      simp only [List.isEmpty_cons, Bool.false_eq_true, if_false]
      rw [track_idle h]
      rfl

theorem erase_idle {x : CertificateIndex} {key : ResourceKey}
    (h : x.tracked.find? key.identity = none) : x.erase key = (false, x) :=
  untrack_idle h

/-! ## Histories -/

/-- The operations of a history that do not fail when their turn comes. -/
def succeeded (x : CertificateIndex) : List Operation → List Operation
  | [] => []
  | op :: ops =>
    match x.perform op with
    | (.ok _, y) => op :: succeeded y ops
    | (.error _, y) => succeeded y ops

/-- The last operation of a history on an object that did not fail. -/
def last? (ops : List Operation) (k : Identity) : Option Operation :=
  ((succeeded {} ops).filter fun op ↦ op.identity = k).getLast?

/-- The certificate that an object was last given, by an operation that did not fail. -/
def given? (ops : List Operation) (k : Identity) : Option Certificate :=
  (last? ops k).bind Operation.certificate?

theorem find?_tracked_foldl (x : CertificateIndex) (ops : List Operation) (k : Identity) :
    (ops.foldl (fun x op ↦ (x.perform op).2) x).tracked.find? k =
      match ((succeeded x ops).filter fun op ↦ op.identity = k).getLast? with
      | some op => op.certificate?.bind Certificate.tracked?
      | none => x.tracked.find? k := by
  induction ops generalizing x with
  | nil => rfl
  | cons op ops ih =>
    have hop := x.find?_tracked_perform op k
    rw [List.foldl_cons, ih, succeeded]
    generalize x.perform op = performed at hop ⊢
    obtain ⟨result, y⟩ := performed
    cases result with
    | error e =>
      simp only at hop ⊢
      rw [hop]
    | ok changed =>
      simp only at hop ⊢
      by_cases hk : op.identity = k
      · rw [List.filter_cons_of_pos (by simpa using hk), List.getLast?_cons, hop,
          if_pos hk.symm]
        cases ((succeeded y ops).filter fun op ↦ op.identity = k).getLast? <;> rfl
      · rw [List.filter_cons_of_neg (by simpa using hk), hop, if_neg (Ne.symm hk)]

/-- What is tracked after a history is the certificate that was given last, if it is served. -/
theorem find?_tracked_after (ops : List Operation) (k : Identity) :
    (after ops).tracked.find? k = (given? ops k).bind Certificate.tracked? := by
  rw [after, find?_tracked_foldl, given?, last?]
  cases ((succeeded {} ops).filter fun op ↦ op.identity = k).getLast? <;> rfl

/-! ## Order -/

section Swap

variable (x : CertificateIndex) {op op' : Operation} (h : op.identity ≠ op'.identity)
include h

/-- An operation answers the same after one on another object. -/
theorem perform_after_other : ((x.perform op).2.perform op').1 = (x.perform op').1 := by
  refine perform_congr ?_
  rw [find?_tracked_perform]
  split
  · exact if_neg (Ne.symm h)
  · rfl

theorem find?_tracked_swap (k : Identity) :
    ((x.perform op).2.perform op').2.tracked.find? k =
      ((x.perform op').2.perform op).2.tracked.find? k := by
  simp only [find?_tracked_perform, x.perform_after_other h, x.perform_after_other h.symm]
  cases (x.perform op).1 <;> cases (x.perform op').1 <;> grind

end Swap

/-- An index is its last operations. An object is tracked after a history exactly if the last
operation on it that did not fail stored a certificate with an unencrypted key and some names, and
then with that certificate and these names. So histories that gave each object the same certificate
last lead to the same index, operations on different objects can be swapped, and storing a
certificate again is no different from storing it. -/
theorem content_after :
    (∀ ops k t, (after ops).tracked.find? k = some t ↔
      ∃ op c, last? ops k = some op ∧ op.certificate? = some c ∧ t.certificate = c ∧
        c.isKeyEncrypted = false ∧ c.sniSet = .ok t.snis ∧ t.snis ≠ []) ∧
      (∀ ops ops', (∀ k, given? ops k = given? ops' k) → (after ops).Alike (after ops')) ∧
      (∀ ops op op', op.identity ≠ op'.identity →
        let x := after ops
        ((x.perform op).2.perform op').1 = (x.perform op').1 ∧
          ((x.perform op').2.perform op).1 = (x.perform op).1 ∧
          ((x.perform op).2.perform op').2.Alike ((x.perform op').2.perform op).2) ∧
      ∀ x key c, perform x (.insert key c) = perform x (.update key c) := by
  refine ⟨?_, ?_, ?_, fun _ _ _ ↦ rfl⟩
  · intro ops k t
    rw [find?_tracked_after, given?]
    simp only [Option.bind_eq_some_iff, Certificate.tracked?_eq_some_iff]
    constructor
    · rintro ⟨c, ⟨op, hlast, hop⟩, hc⟩
      exact ⟨op, c, hlast, hop, hc⟩
    · rintro ⟨op, c, hlast, hop, hc⟩
      exact ⟨c, ⟨op, hlast, hop⟩, hc⟩
  · intro ops ops' h
    refine (coherent_after ops).alike (coherent_after ops') fun k ↦ ?_
    rw [find?_tracked_after, find?_tracked_after, h]
  · intro ops op op' h x
    have hx : x.Coherent := coherent_after ops
    exact ⟨x.perform_after_other h, x.perform_after_other h.symm,
      ((hx.perform op).perform op').alike ((hx.perform op').perform op) (x.find?_tracked_swap h)⟩

/-- Two histories in which a shared name changes hands in different orders, and a certificate
cannot be read once, lead to the same index. -/
theorem content_after_shared_name :
    let stage : Stage := { gateway := "gateway", name := "stage" }
    let c : Certificate := { key := "key", snis := ["a.com", "*.a.com"], pinned := true }
    let d : Certificate := { key := "other", snis := ["a.com"], pinned := true }
    let ops : List Operation :=
      [.insert ⟨stage, "first"⟩ d, .insert ⟨stage, "second"⟩ c, .update ⟨stage, "first"⟩ c,
        .update ⟨stage, "second"⟩ { key := "key" }, .erase ⟨stage, "third"⟩]
    let ops' : List Operation := [.update ⟨stage, "first"⟩ c, .insert ⟨stage, "second"⟩ c]
    (∀ k, given? ops k = given? ops' k) ∧
      (after ops).Alike (after ops') ∧
      (after ops).lookup "x.a.com" = some ⟨"*.a.com", [c, c]⟩ := by
  intro stage c d ops ops'
  have hops : succeeded {} ops = [.insert ⟨stage, "first"⟩ d, .insert ⟨stage, "second"⟩ c,
      .update ⟨stage, "first"⟩ c, .erase ⟨stage, "third"⟩] := by decide +kernel
  have hops' : succeeded {} ops' = ops' := by decide +kernel
  have hnamed : ∀ k ∈ ops.map Operation.identity, given? ops k = given? ops' k := by decide +kernel
  have hgiven (k : Identity) : given? ops k = given? ops' k := by
    by_cases hk : k ∈ ops.map Operation.identity
    · exact hnamed k hk
    · simp only [ops, Operation.identity, List.map_cons, List.map_nil, List.mem_cons,
        List.not_mem_nil, or_false, not_or] at hk
      simp [given?, last?, hops, hops', ops', Operation.identity, Ne.symm hk.1, Ne.symm hk.2.1,
        Ne.symm hk.2.2.2.2]
  exact ⟨hgiven, content_after.2.1 ops ops' hgiven, by decide +kernel⟩

end StageRelay.CertificateIndex
