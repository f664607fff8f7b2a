import StageRelay.Proofs.Indexing.Documents
import StageRelay.Proofs.Indexing.Handlers

/-!
# What is out of date makes a stage wait

While nothing else changes, the handling of a notice that covers a subject which is out of date
makes the stage wait, or fails and is tried again. This needs the subject to be one of which an
index takes note: a certificate with an encrypted key or without names is withdrawn in silence.
-/

namespace StageRelay

/-- Whether an index takes note of a certificate: it serves it, or fails at it. -/
structure Certificate.Noticed (c : Certificate) : Prop where
  unencrypted : c.isKeyEncrypted = false
  named : c.sniSet ≠ .ok []

/-- A certificate that is noticed, and not failed at, is served. -/
theorem Certificate.Noticed.tracked? {c : Certificate} (h : c.Noticed) {names : NameSet}
    (hs : c.sniSet = .ok names) : c.tracked? = some ⟨c, names⟩ := by
  refine Certificate.tracked?_eq_some_iff.2 ⟨rfl, h.unencrypted, hs, ?_⟩
  rintro rfl
  exact h.named hs

theorem Certificate.Noticed.exists_names {c : Certificate} (h : c.Noticed)
    {x : CertificateIndex} {key : ResourceKey} {changed : Bool}
    (hinsert : (x.insert key c).1 = .ok changed) : ∃ names, c.sniSet = .ok names := by
  rw [CertificateIndex.insert, if_neg (by simp [h.unencrypted])] at hinsert
  cases hs : c.sniSet with
  | error e =>
    rw [hs] at hinsert
    cases hinsert
  | ok names => exact ⟨names, rfl⟩

namespace Indexing

open Agent (Attempt Leads Triple)

/-! ## Assertions -/

/-- What no part of a handler changes, unless it is the end of one. -/
structure Intact (st : Store) (q : RetryQueue) (a : AgentState) (s : Services) : Prop where
  store : s.registry.store = st
  retries : a.retries = q

/-- What is indexed for a subject is out of date, or its names cannot be told. -/
def Overdue (st : Store) (u : Subject) (a : AgentState) : Prop :=
  a.directory.lookup? u.place ≠ u.wanted? st ∨
    ∃ c e, u.certificate? st = some c ∧ c.sniSet = .error e

/-- A stage waits, or a subject is out of date and is still to be looked at. -/
def Due (st : Store) (t : Stage) (u : Subject) (p : Prop) (a : AgentState) (s : Services) : Prop :=
  t ∈ s.debouncer.stages ∨ Overdue st u a ∧ p

/-- A part of a handler that fails, or leaves a subject to be looked at only under a condition. -/
def Attends (st : Store) (q : RetryQueue) (t : Stage) (u : Subject) (p : Prop) (w : Attempt Unit)
    (p' : Prop) : Prop :=
  Triple Services.alone (fun a s ↦ Intact st q a s ∧ Due st t u p a s) w
    (fun _ a s ↦ Intact st q a s ∧ Due st t u p' a s) (Intact st q)

variable {st : Store} {q : RetryQueue} {t : Stage} {u v : Subject} {p p' : Prop} {a : AgentState}
  {s : Services} {key : ResourceKey}

theorem Due.mono (h : Due st t u p a s) (hp : p → p') : Due st t u p' a s :=
  h.imp_right (And.imp_right hp)

theorem Due.waits (h : Due st t u False a s) : t ∈ s.debouncer.stages :=
  h.resolve_right And.right

/-- Writing what is indexed for another subject leaves this one as it is. -/
theorem Overdue.write (h : Overdue st u a) (hne : u.place ≠ v.place) {d : IndexDirectory}
    {x : Option Tracked} (hd : Writes v.place x a.directory d) :
    Overdue st u { a with directory := d } :=
  h.imp_left fun h ↦ by rwa [hd.entry, if_neg hne]

section Telling

variable (hkey : key.identity = u.place) (howner : u.place.owner.same t) (hd : Overdue st u a)
include hkey howner hd

/-- Storing the certificate of a subject that is out of date changes what is served. -/
theorem Overdue.insert {c : Certificate} (hc : u.certificate? st = some c) (hn : c.Noticed)
    {changed : Bool} (h : ((a.directory.get t).insert key c).1 = .ok changed) : changed = true := by
  obtain ⟨names, hs⟩ := hn.exists_names h
  have ht := hn.tracked? hs
  rw [CertificateIndex.insert_tells _ _ ht, hkey, a.directory.find?_tracked_get howner] at h
  obtain rfl := Except.ok.inj h
  rw [decide_eq_true_eq]
  rcases hd with hd | ⟨c', e, hc', he⟩
  · rwa [Subject.wanted?_eq, hc, Option.bind_some, ht] at hd
  · obtain rfl := Option.some.inj (hc.symm.trans hc')
    cases he.symm.trans hs

/-- So does withdrawing it, if there is none any more. -/
theorem Overdue.erase (hc : u.certificate? st = none) :
    ((a.directory.get t).erase key).1 = true := by
  rw [CertificateIndex.erase_tells, hkey, a.directory.find?_tracked_get howner]
  rcases hd with hd | ⟨c, e, hc', -⟩
  · rw [Subject.wanted?_eq, hc, Option.bind_none] at hd
    exact Option.isSome_iff_ne_none.2 hd
  · cases hc.symm.trans hc'

end Telling

/-! ## Parts of the handlers -/

section Parts

variable {P E : AgentState → Services → Prop}

theorem find?_alone (kind : Kind) (key : ResourceKey) (hP : ∀ a s, P a s → Intact st q a s) :
    Triple Services.alone P (Agent.find? kind key)
      (fun r? a s ↦ r? = st.get? kind key ∧ P a s) (Intact st q) := by
  refine .bind (Q := fun b a s ↦ P a s ∧ (∀ r, b = .ok r → st.get? kind key = some r) ∧
    ∀ kind' key', b = .error (.notFound kind' key') → st.get? kind key = none) ?_ ?_
  · refine .attempt fun a s h ↦ ⟨h, ?_⟩
    simp only [Services.answer, Registry.get, (hP a s h).store]
    cases hr : st.get? kind key with
    | none => split <;> simp [Services.backendFault]
    | some r => split <;> simp [Services.backendFault]
  · intro b
    rcases b with (⟨kind', key'⟩ | reason) | r
    · exact .pure fun a s h ↦ ⟨(h.2.2 kind' key' rfl).symm, h.1⟩
    · exact .throw fun a s h ↦ hP a s h.1
    · exact .pure fun a s h ↦ ⟨(h.2.1 r rfl).symm, h.1⟩

theorem attends_touch (stage : Stage) : Attends st q t u p (Agent.touch stage) p := by
  refine .modify fun a s ⟨hi, hd⟩ ↦ ⟨⟨hi.store, hi.retries⟩, hd.imp_right (And.imp_left ?_)⟩
  exact fun h ↦ h.imp_left fun h ↦ by rwa [IndexDirectory.lookup?_touch]

/-- A stage waits if something changed. -/
theorem postponeIf_alone (changed : Bool) :
    Triple Services.alone
      (fun a s ↦ Intact st q a s ∧ (changed = true ∨ Due st t u p a s))
      (Agent.postponeIf changed t) (fun _ a s ↦ Intact st q a s ∧ Due st t u p a s) E := by
  cases changed with
  | true =>
    refine .attempt fun a s ⟨hi, _⟩ ↦ ⟨⟨hi.store, hi.retries⟩, .inl ?_⟩
    exact Debouncer.mem_stages_update_self
  | false => exact .pure fun a s ⟨hi, h⟩ ↦ ⟨hi, h.resolve_left Bool.false_ne_true⟩

section Write

variable (hkey : key.identity = v.place) (hstage : key.stage.same t) (hu : u.Proper)
  (hv : v.Proper)
include hkey hstage

theorem owner_same_of_place : v.place.owner.same t :=
  hkey ▸ Stage.same_trans key.owner_identity_same hstage

include hu hv

/-- Storing the certificate of a subject tells whether the subject was out of date. -/
theorem store_alone {c : Certificate} (hc : v.certificate? st = some c)
    (hnoticed : v = u → c.Noticed) :
    Triple Services.alone (fun a s ↦ Intact st q a s ∧ Due st t u p a s) (Agent.store t key c)
      (fun changed a s ↦ Intact st q a s ∧ (changed = true ∨ Due st t u (p ∧ v ≠ u) a s))
      (Intact st q) := by
  have howner := owner_same_of_place hkey hstage
  refine store_writes hstage ?_ fun a s h ↦ ⟨h.1.store, h.1.retries⟩
  rintro a s d changed ⟨hi, hd⟩ hinsert hwrites
  refine ⟨⟨hi.store, hi.retries⟩, ?_⟩
  rcases hd with hd | ⟨hd, hp⟩
  · exact .inr (.inl hd)
  by_cases hvu : v = u
  · subst hvu
    exact .inl (hd.insert hkey howner hc (hnoticed rfl) hinsert)
  · have hplace : u.place ≠ v.place := fun heq ↦ hvu (hu.place_inj hv heq).symm
    exact .inr (.inr ⟨hd.write hplace (hkey ▸ hwrites), hp, hvu⟩)

/-- Withdrawing the certificate of a subject tells whether it was there. -/
theorem withdraw_alone (hc : v.certificate? st = none) :
    Triple Services.alone (fun a s ↦ Intact st q a s ∧ Due st t u p a s) (Agent.withdraw t key)
      (fun changed a s ↦ Intact st q a s ∧ (changed = true ∨ Due st t u (p ∧ v ≠ u) a s)) E := by
  have howner := owner_same_of_place hkey hstage
  refine withdraw_writes hstage ?_
  rintro a s d ⟨hi, hd⟩ hwrites
  refine ⟨⟨hi.store, hi.retries⟩, ?_⟩
  rcases hd with hd | ⟨hd, hp⟩
  · exact .inr (.inl hd)
  by_cases hvu : v = u
  · subst hvu
    exact .inl (hd.erase hkey howner hc)
  · have hplace : u.place ≠ v.place := fun heq ↦ hvu (hu.place_inj hv heq).symm
    exact .inr (.inr ⟨hd.write hplace (hkey ▸ hwrites), hp, hvu⟩)

end Write

end Parts

/-! ## Handlers -/

section Handlers

variable (hst : st.Keyed) (hu : u.Proper) (hsilent : ¬ Silent st u)
  (hnoticed : ∀ c, u.certificate? st = some c → c.Noticed)
include hu hnoticed

section Binding

include hsilent

/-- After a binding was indexed it need not be looked at any more. -/
theorem attends_indexBinding (hkey : key.stage.Plain) (hstage : key.stage.same t) :
    Attends st q t u p (Agent.indexBinding t key) (p ∧ .binding key.identity ≠ u) := by
  have hv := Subject.proper_binding hkey
  have hplace : key.ofBinding.identity = (Subject.binding key.identity).place := rfl
  have hsecret (name : String) :
      st.get? .secret ⟨t, name⟩ = st.get? .secret ⟨key.identity.owner, name⟩ :=
    Store.get?_of_same (Stage.same_comm.1 hstage) .secret name
  have hwithdraw (hc : (Subject.binding key.identity).certificate? st = none) :
      Attends st q t u p
        (do let changed ← Agent.withdraw t key.ofBinding; Agent.postponeIf changed t)
        (p ∧ .binding key.identity ≠ u) :=
    .bind (withdraw_alone hplace hstage hu hv hc) fun changed ↦ postponeIf_alone changed
  unfold Agent.indexBinding
  refine .bind (attends_touch t) fun _ ↦ ?_
  refine .bind (find?_alone .tlsBinding key fun _ _ h ↦ h.1) fun r? ↦ .of_and fun hr ↦ ?_
  cases r? with
  | none => exact hwithdraw (by simp [Subject.certificate?, ← hr])
  | some r =>
    refine .orThrow_bind (fun _ _ h ↦ h.1) fun b hb ↦ ?_
    split
    · next hsnis =>
      refine .pure fun a s h ↦ ⟨h.1, h.2.mono fun hp ↦ ⟨hp, ?_⟩⟩
      rintro rfl
      exact hsilent ⟨r, b, hr.symm, hb, List.isEmpty_iff.1 hsnis⟩
    refine .bind (find?_alone .secret _ fun _ _ h ↦ h.1) fun secret? ↦ .of_and fun hs ↦ ?_
    rw [hsecret] at hs
    cases secret? with
    | none => exact hwithdraw (by simp [Subject.certificate?, ← hr, hb, ← hs, Except.toOption])
    | some secret =>
      refine .orThrow_bind (fun _ _ h ↦ h.1) fun data hdata ↦ ?_
      have hc : (Subject.binding key.identity).certificate? st =
          some ((Certificate.ofSecret data).pin b.snis) :=
        Subject.certificate?_binding.2 ⟨r, b, secret, data, hr.symm, hb, hs.symm, hdata, rfl⟩
      refine .bind (store_alone hplace hstage hu hv hc ?_) fun changed ↦ postponeIf_alone changed
      rintro rfl
      exact hnoticed _ hc

end Binding

variable {n : Notice}

include hst hsilent

/-- After the bindings of a secret were indexed none of them need be looked at any more. -/
theorem attends_indexBindingsOf (hkind : n.kind = .secret) :
    Attends st q n.stage u (Covers st n u ∧ u ≠ .secret n.key.identity)
      (Agent.indexBindingsOf n.stage n.name) False := by
  have hloop (rs : List Resource) (hrs : ∀ r ∈ rs, r.stage.Plain ∧ r.stage.same n.stage) :
      Attends st q n.stage u (∃ r ∈ rs, .binding r.key.identity = u)
        (rs.forM fun r ↦ Agent.indexBinding n.stage r.key) False := by
    induction rs with
    | nil =>
      refine .pure fun a s h ↦ ⟨h.1, h.2.mono ?_⟩
      rintro ⟨r, hr, -⟩
      cases hr
    | cons r rs ih =>
      obtain ⟨⟨hplain, hsame⟩, hrs⟩ := List.forall_mem_cons.1 hrs
      refine .bind (attends_indexBinding hu hsilent hnoticed hplain hsame) fun _ ↦
        .pre (ih hrs) fun a s h ↦ ⟨h.1, h.2.mono ?_⟩
      rintro ⟨⟨r', hr', hu⟩, hne⟩
      rcases List.mem_cons.1 hr' with rfl | hr'
      · exact absurd hu hne
      · exact ⟨r', hr', hu⟩
  unfold Agent.indexBindingsOf
  refine .bind (Q := fun listed a s ↦ (∀ rs, listed = .ok rs → rs = st.list .tlsBinding n.stage) ∧
    Intact st q a s ∧ Due st n.stage u (Covers st n u ∧ u ≠ .secret n.key.identity) a s) ?_
    fun listed ↦ ?_
  · refine .attempt fun a s h ↦ ⟨fun rs hrs ↦ ?_, h⟩
    simp only [Services.answer, h.1.store] at hrs
    split at hrs
    · cases hrs
    · exact (Except.ok.inj hrs).symm
  · refine .orThrow_bind (fun _ _ h ↦ h.2.1) fun rs hrs ↦ .of_and fun hlisted ↦ ?_
    obtain rfl := hlisted rs hrs
    refine .pre (hloop _ ?_) fun a s h ↦ ⟨h.1, h.2.mono ?_⟩
    · intro r hr
      obtain ⟨hmem, -, hsame⟩ := Store.mem_list.1 (List.mem_filter.1 hr).1
      exact ⟨hst.plain_of_mem hmem, hsame⟩
    · rintro ⟨hc, hne⟩
      obtain ⟨r, hr, rfl⟩ := mem_list_of_covers hst hkind hu hc hne
      exact ⟨r, hr, rfl⟩

/-- After a secret was indexed neither it nor its bindings need be looked at any more. -/
theorem attends_indexSecret (hkind : n.kind = .secret) (hn : ProperNotice n) :
    Attends st q n.stage u (Covers st n u) (Agent.indexSecret n.stage n.key) False := by
  have hv : (Subject.secret n.key.identity).Proper :=
    Subject.proper_secret hn.plain (hn.unmarked hkind)
  have hplace : n.key.identity = (Subject.secret n.key.identity).place := rfl
  have hrest (changed : Bool) : Triple Services.alone
      (fun a s ↦ Intact st q a s ∧ (changed = true ∨
        Due st n.stage u (Covers st n u ∧ .secret n.key.identity ≠ u) a s))
      (do Agent.postponeIf changed n.stage; Agent.indexBindingsOf n.stage n.key.name)
      (fun _ a s ↦ Intact st q a s ∧ Due st n.stage u False a s) (Intact st q) := by
    refine .bind (postponeIf_alone changed) fun _ ↦
      .pre (attends_indexBindingsOf hst hu hsilent hnoticed hkind) fun a s h ↦ ⟨h.1, h.2.mono ?_⟩
    exact And.imp_right Ne.symm
  unfold Agent.indexSecret
  refine .bind (attends_touch n.stage) fun _ ↦ ?_
  refine .bind (find?_alone .secret n.key fun _ _ h ↦ h.1) fun r? ↦ .of_and fun hr ↦ ?_
  cases r? with
  | none =>
    have hc : (Subject.secret n.key.identity).certificate? st = none := by
      simp [Subject.certificate?, ← hr]
    exact .bind (withdraw_alone hplace (Stage.same_refl _) hu hv hc) hrest
  | some r =>
    refine .orThrow_bind (fun _ _ h ↦ h.1) fun data hdata ↦ ?_
    have hc : (Subject.secret n.key.identity).certificate? st = some (.ofSecret data) :=
      Subject.certificate?_secret.2 ⟨r, data, hr.symm, hdata, rfl⟩
    refine .bind (store_alone hplace (Stage.same_refl _) hu hv hc ?_) hrest
    rintro rfl
    exact hnoticed _ hc

/-- The handling of a notice that covers a subject makes the stage wait if the subject is out of
date. -/
theorem handleCertificates_alone {most : UInt32} (hn : ProperNotice n) (hmost : ¬ most < n.retries)
    (hc : Covers st n u) :
    Triple Services.alone (fun a s ↦ Intact st q a s ∧ Overdue st u a)
      (Agent.handleCertificates most n) (fun _ _ s ↦ n.stage ∈ s.debouncer.stages)
      (Intact st q) := by
  have hdue {p : Prop} (hp : p) (a : AgentState) (s : Services)
      (h : Intact st q a s ∧ Overdue st u a) :
      Intact st q a s ∧ Due st n.stage u p a s := ⟨h.1, .inr ⟨h.2, hp⟩⟩
  unfold Agent.handleCertificates
  rw [if_neg hmost]
  split
  · next hkind =>
    refine .bind ((attends_indexSecret hst hu hsilent hnoticed hkind hn).pre (hdue hc)) fun _ ↦ ?_
    exact .pure fun a s h ↦ h.2.waits
  · next hkind =>
    refine .bind ((attends_indexBinding hu hsilent hnoticed hn.plain (Stage.same_refl _)).pre
      (hdue hc)) fun _ ↦ .pure fun a s h ↦ (h.2.mono ?_).waits
    rintro ⟨hc, hne⟩
    cases u with
    | secret k => cases hkind.symm.trans hc.1
    | binding k =>
      rcases hc with ⟨-, hk⟩ | ⟨hs, -⟩
      · exact hne (congrArg Subject.binding hk)
      · cases hkind.symm.trans hs
  · next hs hb => exact absurd hc (not_covers hs hb u)

end Handlers

/-- Whether a queue takes one more notice, and can keep track of it. -/
structure HasPlace (q : RetryQueue) : Prop where
  room : q.entries.length < q.capacity
  delay : q.delay < RetryQueue.delayLimit

/-- A notice waits to be handled once more. -/
def IsRetried (n : Notice) (a : AgentState) : Prop :=
  ∃ e ∈ a.retries.entries, e.notice = { n with retries := n.retries + 1 }

variable {n : Notice}

theorem retryLater_alone (hq : HasPlace q) (hretries : n.retries.toNat + 1 ≠ UInt32.size) :
    Leads Services.alone (Intact st q) (Agent.retryLater n) fun _ a _ ↦ IsRetried n a := by
  unfold Agent.retryLater
  rw [if_neg hretries]
  refine .bind (Q := fun _ ↦ Intact st q) (.ask fun a s h ↦ ⟨h.store, h.retries⟩) fun now ↦ ?_
  refine .bind (Q := fun b _ _ ↦ b.retries = q) (.get fun a s h ↦ h.retries) fun b ↦
    .of_forall (fun _ _ h ↦ h) fun hb ↦ ?_
  rw [hb, RetryQueue.push, if_neg (Nat.not_le.2 hq.room),
    if_neg (Nat.not_le.2 hq.delay)]
  refine .bind (Q := fun _ a _ ↦ IsRetried n a) (.set fun a s _ ↦ ?_) fun _ ↦
    .bind (Q := fun _ a _ ↦ IsRetried n a) (.ask fun _ _ ↦ id) fun _ ↦ .pure fun _ _ ↦ id
  exact ⟨_, List.mem_append_right _ (List.mem_singleton.2 rfl), rfl⟩

/-- Once a notice has been handled that covers a subject which was out of date, its stage waits or
the notice will be handled once more. -/
theorem handle_alone (hst : st.Keyed) (hu : u.Proper) (hsilent : ¬ Silent st u)
    (hnoticed : ∀ c, u.certificate? st = some c → c.Noticed) (most : UInt32) (hn : ProperNotice n)
    (hfirst : n.retries = 0) (hc : Covers st n u) (hq : HasPlace q) :
    Leads Services.alone (fun a s ↦ Intact st q a s ∧ Overdue st u a) (Agent.handle most n)
      fun _ a s ↦ n.stage ∈ s.debouncer.stages ∨ IsRetried n a := by
  have hkind : n.kind = .secret ∨ n.kind = .tlsBinding := by
    by_contra h
    obtain ⟨hs, hb⟩ := not_or.1 h
    exact not_covers hs hb u hc
  have hcertificate : n.kind.isCertificate = true := by
    rcases hkind with hk | hk <;> rw [hk] <;> rfl
  have hinstance : n.kind ≠ .gatewayInstance := by
    rcases hkind with hk | hk <;> simp [hk]
  have hmost : ¬ most < n.retries := by
    rw [hfirst]
    exact UInt32.not_lt_zero
  have hretries : n.retries.toNat + 1 ≠ UInt32.size := by
    rw [hfirst]
    decide
  unfold Agent.handle
  rw [if_neg hinstance, hcertificate, Bool.or_true, if_pos rfl]
  refine .bind (Q := fun _ a s ↦ Intact st q a s ∧ Overdue st u a)
    (.ask fun a s h ↦ ⟨⟨h.1.store, h.1.retries⟩, h.2⟩) fun _ ↦ ?_
  refine .bind (handleCertificates_alone hst hu hsilent hnoticed hn hmost hc) fun r ↦ ?_
  cases r with
  | ok stages => exact .pure fun a s h ↦ .inl h
  | error e => exact (retryLater_alone hq hretries).mono (fun _ _ ↦ id) fun _ _ _ h ↦ .inr h

end Indexing

end StageRelay
