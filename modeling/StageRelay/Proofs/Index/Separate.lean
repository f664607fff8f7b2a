import StageRelay.Proofs.Index.Content
import StageRelay.Proofs.Index.Foreign

/-!
# Shared and separate indices

An operation looks at nothing but what is tracked for its object, and changes nothing else. So the
operations of a history that are about some of the objects lead to the part of the index that
concerns these objects: what is told of each of them is the same, and so is what is served for a
host, as long as only these objects claim names that are found for it. Stages with an index each
hold such parts of the index that they would share.
-/

namespace StageRelay

namespace CertificateIndex

variable {x y : CertificateIndex} {p : Identity → Prop}

/-! ## Parts of an index -/

/-- An index tracks what another one tracks for some of its objects, and nothing else. -/
def IsPart (p : Identity → Prop) (y x : CertificateIndex) : Prop :=
  ∀ k t, y.tracked.find? k = some t ↔ x.tracked.find? k = some t ∧ p k

theorem IsPart.find?_eq (h : IsPart p y x) {k : Identity} (hk : p k) :
    y.tracked.find? k = x.tracked.find? k := by
  ext t
  rw [h k t, and_iff_left hk]

/-- An operation on an object of the part is told the same, and goes through in both. -/
theorem IsPart.perform (h : IsPart p y x) {op : Operation} (hop : p op.identity) :
    (y.perform op).1 = (x.perform op).1 ∧ IsPart p (y.perform op).2 (x.perform op).2 := by
  have htold : (y.perform op).1 = (x.perform op).1 := perform_congr (h.find?_eq hop)
  refine ⟨htold, fun k t ↦ ?_⟩
  rw [find?_tracked_perform, find?_tracked_perform, htold]
  cases (x.perform op).1 with
  | error e => exact h k t
  | ok told =>
    by_cases hk : k = op.identity
    · subst hk
      simp [hop]
    · simp only [hk, if_false]
      exact h k t

/-- An operation on another object does not concern the part. -/
theorem IsPart.perform_other (h : IsPart p y x) {op : Operation} (hop : ¬ p op.identity) :
    IsPart p y (x.perform op).2 := by
  intro k t
  rw [h k t, find?_tracked_perform]
  refine and_congr_left fun hk ↦ ?_
  have hne : k ≠ op.identity := by
    rintro rfl
    exact hop hk
  cases (x.perform op).1 with
  | error e => rfl
  | ok told => simp [hne]

/-- The operations on some objects lead to the part of the index that concerns them. -/
theorem isPart_after [DecidablePred p] (ops : List Operation) :
    IsPart p (after (ops.filter fun op ↦ p op.identity)) (after ops) := by
  have step : ∀ (ops : List Operation) {y x : CertificateIndex}, IsPart p y x →
      IsPart p ((ops.filter fun op ↦ p op.identity).foldl (fun x op ↦ (x.perform op).2) y)
        (ops.foldl (fun x op ↦ (x.perform op).2) x) := by
    intro ops
    induction ops with
    | nil => exact id
    | cons op ops ih =>
      intro y x h
      by_cases hop : p op.identity
      · rw [List.filter_cons_of_pos (by simpa using hop)]
        exact ih (h.perform hop).2
      · rw [List.filter_cons_of_neg (by simpa using hop)]
        exact ih (h.perform_other hop)
  exact step ops fun k t ↦ by simp

/-! ## What is served from a part -/

/-- What is served for a host depends on the claims to the names that are found for it. -/
theorem Coherent.best?_rel (hx : x.Coherent) (hy : y.Coherent) (host : String)
    (h : ∀ o n, place n <+: Bytes.ofText (Sni.hostKey host.toList) →
      (x.Claims o n ↔ y.Claims o n)) :
    Option.Rel (fun b b' ↦ b.1 = b'.1 ∧ b.2.Perm b'.2) (x.best? host) (y.best? host) := by
  have hbest := hx.best?_longest host
  have hbest' := hy.best?_longest host
  cases hb : x.best? host with
  | none =>
    rw [hb] at hbest
    cases hb' : y.best? host with
    | none => exact .none
    | some b' =>
      rw [hb'] at hbest'
      obtain ⟨⟨⟨o, ho⟩, hp⟩, -⟩ := hbest'
      exact absurd hp (hbest o b'.1 ((h o b'.1 hp).2 ho))
  | some b =>
    obtain ⟨n, os⟩ := b
    rw [hb] at hbest
    obtain ⟨⟨⟨o, ho⟩, hp⟩, hmax, howned⟩ := hbest
    have ho' := (h o n hp).1 ho
    cases hb' : y.best? host with
    | none =>
      rw [hb'] at hbest'
      exact absurd hp (hbest' o n ho')
    | some b' =>
      obtain ⟨n', os'⟩ := b'
      rw [hb'] at hbest'
      obtain ⟨⟨⟨o', ho''⟩, hp'⟩, hmax', howned'⟩ := hbest'
      -- each of the two names is as long as the other one
      have hle : place n' <+: place n := hmax o' n' ((h o' n' hp').2 ho'') hp'
      have hge : place n <+: place n' := hmax' o n ho' hp
      obtain rfl : n = n' := place_inj (hx.records.wellShaped ho) (hy.records.wellShaped ho'')
        (hge.eq_of_length_le hle.length_le)
      have hclaims : (x.Claims · n) = (y.Claims · n) := funext fun o ↦ propext (h o n hp)
      rw [hclaims] at howned
      obtain ⟨hperm⟩ := howned.perm howned'
      exact .some ⟨rfl, hperm⟩

/-- What is served for a host is the same if the names that are found for it are claimed by the same
objects, with the same certificates. -/
theorem Coherent.lookup_rel (hx : x.Coherent) (hy : y.Coherent) (host : String)
    (hsub : ∀ k t, y.tracked.find? k = some t → x.tracked.find? k = some t)
    (h : ∀ o n, x.Claims o n → place n <+: Bytes.ofText (Sni.hostKey host.toList) →
      y.tracked.find? o = x.tracked.find? o) :
    Option.Rel (fun m m' ↦ m.sni = m'.sni ∧ m.certificates.Perm m'.certificates)
      (x.lookup host) (y.lookup host) := by
  have hclaims : ∀ o n, place n <+: Bytes.ofText (Sni.hostKey host.toList) →
      (x.Claims o n ↔ y.Claims o n) := by
    intro o n hp
    constructor
    · intro ho
      obtain ⟨t, ht, hn⟩ := ho
      exact ⟨t, (h o n ⟨t, ht, hn⟩ hp).trans ht, hn⟩
    · rintro ⟨t, ht, hn⟩
      exact ⟨t, hsub o t ht, hn⟩
  have hbest := hx.best?_rel hy host hclaims
  have hlongest := hx.best?_longest host
  rw [CertificateIndex.lookup, CertificateIndex.lookup]
  generalize y.best? host = b' at hbest
  cases hb : x.best? host with
  | none =>
    rw [hb] at hbest
    cases hbest
    exact .none
  | some b =>
    rw [hb] at hbest hlongest
    cases hbest with
    | some hsame =>
    obtain ⟨⟨-, hp⟩, -, howned⟩ := hlongest
    refine .some ⟨hsame.1, ?_⟩
    -- the owners claim a name that is found, so that both indices have their certificates
    have hcertificates : b.2.filterMap x.certificate? = b.2.filterMap y.certificate? := by
      refine List.filterMap_congr fun o ho ↦ ?_
      rw [certificate?, certificate?, h o b.1 ((howned.2.2 o).1 ho) hp]
    show (b.2.filterMap x.certificate?).Perm _
    rw [hcertificates]
    exact hsame.2.filterMap y.certificate?

/-! ## Making an index anew -/

/-- The index of some entries, made by storing their certificates. -/
def rebuilt (entries : Assoc Identity Tracked) : CertificateIndex :=
  after (entries.map fun e ↦ .insert ⟨e.1.owner, e.1.name⟩ e.2.certificate)

theorem find?_tracked_store (x : CertificateIndex) {entries : Assoc Identity Tracked}
    (hdistinct : entries.Distinct)
    (hserved : ∀ e ∈ entries, e.2.certificate.tracked? = some e.2) (k : Identity) :
    ((entries.map fun e ↦ Operation.insert ⟨e.1.owner, e.1.name⟩ e.2.certificate).foldl
        (fun x op ↦ (x.perform op).2) x).tracked.find? k =
      (entries.find? k).or (x.tracked.find? k) := by
  induction entries generalizing x with
  | nil => rfl
  | cons e rest ih =>
    obtain ⟨l, t⟩ := e
    obtain ⟨hl, hrest⟩ := List.nodup_cons.1 hdistinct
    have ht : t.certificate.tracked? = some t := hserved (l, t) (by simp)
    have hinsert := find?_tracked_insert (x.insert_tells ⟨l.owner, l.name⟩ ht) k
    rw [List.map_cons, List.foldl_cons, ih _ hrest fun e he ↦ hserved e (by simp [he])]
    rw [perform, hinsert, ht, Assoc.find?]
    show (Assoc.find? k rest).or (if k = l then _ else _) = _
    by_cases hk : k = l
    · -- the other entries are about other objects
      have hnone : Assoc.find? k rest = none := by
        refine Option.eq_none_iff_forall_ne_some.2 fun t' ht' ↦ hl ?_
        rw [Assoc.Distinct.find?_eq_some_iff hrest] at ht'
        exact List.mem_map.2 ⟨_, ht', hk⟩
      rw [hnone, if_pos hk, if_pos hk]
      rfl
    · rw [if_neg hk, if_neg hk]

theorem find?_tracked_rebuilt {entries : Assoc Identity Tracked} (hdistinct : entries.Distinct)
    (hserved : ∀ e ∈ entries, e.2.certificate.tracked? = some e.2) (k : Identity) :
    (rebuilt entries).tracked.find? k = entries.find? k := by
  have hstore := find?_tracked_store {} hdistinct hserved k
  rwa [Assoc.find?_nil, Option.or_none] at hstore

/-- The part of an index is made anew from the entries of its objects, in any order. -/
theorem IsPart.alike_rebuilt [DecidablePred p] (h : IsPart p y x) (hx : x.Coherent)
    (hy : y.Coherent) {entries : Assoc Identity Tracked}
    (hentries : entries.Perm (x.tracked.filter fun e ↦ p e.1)) : y.Alike (rebuilt entries) := by
  have hmem : ∀ k t, (k, t) ∈ entries ↔ y.tracked.find? k = some t := by
    intro k t
    rw [hentries.mem_iff, h k t, hx.distinct.find?_eq_some_iff]
    simp
  have hdistinct : entries.Distinct :=
    (hentries.map Prod.fst).nodup_iff.2 (hx.distinct.sublist (List.filter_sublist.map Prod.fst))
  have hserved : ∀ e ∈ entries, e.2.certificate.tracked? = some e.2 := by
    rintro ⟨k, t⟩ he
    obtain ⟨hne, hsni, hkey⟩ := hy.served ((hmem k t).1 he)
    exact Certificate.tracked?_eq_some_iff.2 ⟨rfl, hkey, hsni, hne⟩
  refine hy.alike (coherent_after _) fun k ↦ ?_
  rw [find?_tracked_rebuilt hdistinct hserved]
  ext t
  rw [← hmem, hdistinct.find?_eq_some_iff]

/-- The stage whose index an operation goes to. -/
def Operation.stage : Operation → Stage
  | insert key _ | update key _ | erase key => key.stage

theorem Operation.key_owner_identity (op : Operation) : op.identity.owner.key = op.stage.key := by
  cases op <;> rfl

end CertificateIndex

/-! ## Directories -/

namespace IndexDirectory

open CertificateIndex (Operation)

/-- Does what is asked for in the index of the operation's own stage. -/
def perform (d : IndexDirectory) (op : Operation) :
    Except CertificateError Bool × IndexDirectory :=
  ((d.get op.stage).perform op).map id (d.set op.stage)

/-- The directory after a history of operations. -/
def after (perStage : Bool) (ops : List Operation) : IndexDirectory :=
  ops.foldl (fun d op ↦ (d.perform op).2) (empty perStage)

/-- An index has gone through the operations on the stages that share it. -/
theorem get_foldl_perform {d : IndexDirectory} {s : Stage} {p : Operation → Prop} [DecidablePred p]
    (hp : ∀ op, p op ↔ d.Together s op.stage) (ops : List Operation) :
    (ops.foldl (fun d op ↦ (d.perform op).2) d).get s =
      (ops.filter p).foldl (fun x op ↦ (x.perform op).2) (d.get s) := by
  induction ops generalizing d with
  | nil => rfl
  | cons op ops ih =>
    have hp' : ∀ op', p op' ↔ (d.perform op).2.Together s op'.stage := by
      intro op'
      rw [hp op', perform, Prod.map_snd, together_set]
    rw [List.foldl_cons, ih hp', perform, Prod.map_snd]
    by_cases hop : p op
    · have htogether := (hp op).1 hop
      rw [List.filter_cons_of_pos (by simpa using hop), get_set_of_together htogether,
        ← htogether.get_eq]
      rfl
    · rw [List.filter_cons_of_neg (by simpa using hop),
        get_set_of_not_together fun htogether ↦ hop ((hp op).2 htogether)]

theorem get_after_shared (ops : List Operation) (s : Stage) :
    (after false ops).get s = CertificateIndex.after ops := by
  have hget := get_foldl_perform (d := empty false) (s := s) (p := fun _ ↦ True)
    (fun _ ↦ Iff.rfl) ops
  rwa [List.filter_eq_self.2 (by simp)] at hget

theorem get_after_separate (ops : List Operation) (s : Stage) :
    (after true ops).get s = CertificateIndex.after (ops.filter fun op ↦ op.stage.key = s.key) :=
  get_foldl_perform (d := empty true) (fun _ ↦ eq_comm) ops

theorem coherent_get_after (perStage : Bool) (ops : List Operation) (s : Stage) :
    ((after perStage ops).get s).Coherent := by
  cases perStage
  · rw [get_after_shared]
    exact CertificateIndex.coherent_after ops
  · rw [get_after_separate]
    exact CertificateIndex.coherent_after _

/-- The index of a stage holds the part of the shared index that concerns the stage. -/
theorem isPart_get_after (ops : List Operation) (s : Stage) :
    CertificateIndex.IsPart (fun k ↦ k.owner.key = s.key) ((after true ops).get s)
      ((after false ops).get s) := by
  have hpart := CertificateIndex.isPart_after (p := fun k ↦ k.owner.key = s.key) ops
  simp only [Operation.key_owner_identity] at hpart
  rw [get_after_shared, get_after_separate]
  exact hpart

open Sni (Fits Leaks) in
/-- Stages that share an index and stages with an index each are served alike. After any history in
which each operation goes to the index of its own stage, every operation is answered the same, and
the separate index of a stage holds exactly those entries of the shared one that belong to objects
of a stage with its key. It is as if it were made anew from them, in any order. So a host is served
the same if no object of another stage claims a name that is found for it. -/
theorem shared_and_separate_agree (ops : List Operation) :
    (∀ op, ((after false ops).perform op).1 = ((after true ops).perform op).1) ∧
      ∀ s : Stage,
        let shared := (after false ops).get s
        let separate := (after true ops).get s
        (∀ k t, separate.tracked.find? k = some t ↔
          shared.tracked.find? k = some t ∧ k.owner.key = s.key) ∧
        (∀ entries, entries.Perm (shared.tracked.filter fun e ↦ e.1.owner.key = s.key) →
          separate.Alike (.rebuilt entries)) ∧
        ∀ host : String,
          (∀ k n, shared.Claims k n →
            Fits n.toList (Sni.clean host.toList) ∨ Leaks n.toList (Sni.clean host.toList) →
            k.owner.key = s.key) →
          Option.Rel (fun m m' ↦ m.sni = m'.sni ∧ m.certificates.Perm m'.certificates)
            (shared.lookup host) (separate.lookup host) := by
  have hshared := coherent_get_after false ops
  have hseparate := coherent_get_after true ops
  refine ⟨fun op ↦ ?_, fun s ↦ ⟨isPart_get_after ops s, fun entries hentries ↦ ?_,
    fun host hhost ↦ ?_⟩⟩
  · exact ((isPart_get_after ops op.stage).perform op.key_owner_identity).1.symm
  · exact (isPart_get_after ops s).alike_rebuilt (hshared s) (hseparate s) hentries
  · refine (hshared s).lookup_rel (hseparate s) host
      (fun k t ht ↦ ((isPart_get_after ops s k t).1 ht).1) fun k n hn hp ↦ ?_
    have hfound := (CertificateIndex.place_isPrefix_iff_fits_or_leaks
      ((hshared s).records.wellShaped hn)).1 hp
    exact (isPart_get_after ops s).find?_eq (hhost k n hn hfound)

/-- Two stages claim a name each with a certificate of their own, and one of them another name.
Sharing an index shows in what is served for the name that both claim, and not for the other one. -/
theorem agree_except_for_shared_name :
    let prod : Stage := { gateway := "gateway", name := "prod" }
    let test : Stage := { gateway := "gateway", name := "test" }
    let c : Certificate := { key := "key", snis := ["a.com", "*.b.com"], pinned := true }
    let d : Certificate := { key := "other", snis := ["a.com"], pinned := true }
    let ops : List Operation :=
      [.insert ⟨prod, "object"⟩ d, .insert ⟨test, "object"⟩ d, .update ⟨prod, "object"⟩ c,
        .erase ⟨test, "missing"⟩]
    let shared := (after false ops).get prod
    let separate := (after true ops).get prod
    shared.lookup "a.com" = some ⟨"a.com", [c, d]⟩ ∧
      separate.lookup "a.com" = some ⟨"a.com", [c]⟩ ∧
      shared.lookup "x.b.com" = some ⟨"*.b.com", [c]⟩ ∧
      Option.Rel (fun m m' ↦ m.sni = m'.sni ∧ m.certificates.Perm m'.certificates)
        (shared.lookup "x.b.com") (separate.lookup "x.b.com") := by
  intro prod test c d ops shared separate
  refine ⟨by decide +kernel, by decide +kernel, by decide +kernel, ?_⟩
  refine ((shared_and_separate_agree ops).2 prod).2.2 "x.b.com" ?_
  have hshared : shared.Coherent := coherent_get_after false ops prod
  have htracked : shared.tracked = [(⟨"gateway", "prod", "object"⟩, ⟨c, ["*.b.com", "a.com"]⟩),
      (⟨"gateway", "test", "object"⟩, ⟨d, ["a.com"]⟩)] := by decide +kernel
  rintro k n ⟨t, ht, hn⟩ hfound
  rw [← CertificateIndex.place_isPrefix_iff_fits_or_leaks
    (hshared.records.wellShaped ⟨t, ht, hn⟩)] at hfound
  rw [hshared.distinct.find?_eq_some_iff, htracked] at ht
  simp only [List.mem_cons, List.not_mem_nil, or_false, Prod.mk.injEq] at ht
  obtain ⟨rfl, -⟩ | ⟨-, rfl⟩ := ht
  · rfl
  · obtain rfl := List.mem_singleton.1 hn
    exact absurd hfound (by decide +kernel)

end IndexDirectory

end StageRelay
