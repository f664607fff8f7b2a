import StageRelay.Proofs.Debounce
import StageRelay.Proofs.Index.Told
import StageRelay.Proofs.Indexing.Redelivery
import StageRelay.Proofs.Registry.Stored

/-!
# What is planned for a subject

What is stored settles what a handler is to do about a subject: to leave the entry of the subject
alone, to withdraw it, or to store a certificate. A handler carries out the plans of its subjects
one after the other, whatever there was in the index, and fails only at a subject without a plan or
at an object that cannot be read.
-/

namespace StageRelay

namespace Indexing

open Agent (Attempt Leads Triple)

/-! ## Plans -/

/-- What is to be done about the entry of a subject. -/
inductive Plan where
  | leave
  | withdraw
  | store (c : Certificate)

namespace Plan

/-- The entry after the plan was carried out. -/
def entry : Plan → Option Tracked → Option Tracked
  | leave, v => v
  | withdraw, _ => none
  | store c, _ => c.tracked?

/-- Whether carrying out the plan makes the stage wait. A certificate that is rejected does not. -/
def Tells : Plan → Option Tracked → Prop
  | leave, _ => False
  | withdraw, v => v ≠ none
  | store c, v => ¬ c.Rejected ∧ c.tracked? ≠ v

/-- The plan to store a certificate, unless its names are needed and cannot be told. -/
def storing (c : Certificate) : Except AgentError Plan :=
  if c.isKeyEncrypted then .ok (.store c)
  else
    match c.sniSet with
    | .ok _ => .ok (.store c)
    | .error e => .error (.certificate e)

theorem eq_store_of_storing {c : Certificate} {p : Plan} (h : storing c = .ok p) :
    p = .store c := by
  unfold storing at h
  split at h
  · exact (Except.ok.inj h).symm
  · split at h
    · exact (Except.ok.inj h).symm
    · cases h

theorem storing_of_insert {x : CertificateIndex} {key : ResourceKey} {c : Certificate}
    {changed : Bool} (h : (x.insert key c).1 = .ok changed) : storing c = .ok (.store c) := by
  unfold storing
  split
  · rfl
  · next hkey =>
    cases hs : c.sniSet with
    | ok names => rfl
    | error e =>
      have herror : (x.insert key c).1 = .error e :=
        CertificateIndex.insert_eq_error_iff.2 ⟨Bool.eq_false_iff.2 hkey, hs⟩
      cases h.symm.trans herror

theorem storing_of_insert_error {x : CertificateIndex} {key : ResourceKey} {c : Certificate}
    {e : CertificateError} (h : (x.insert key c).1 = .error e) :
    storing c = .error (.certificate e) := by
  obtain ⟨hkey, hs⟩ := CertificateIndex.insert_eq_error_iff.1 h
  rw [storing, if_neg (by simp [hkey]), hs]

end Plan

namespace Subject

/-- The plan for the content of a secret. -/
def planOf (data : Except Fault SecretData) (f : SecretData → Certificate) :
    Except AgentError Plan :=
  match data with
  | .error e => .error (.decode e)
  | .ok data => Plan.storing (f data)

/-- The plan for a subject, as far as what is stored can be decoded. A binding that declares no
names is left alone. -/
def plan (st : Store) : Subject → Except AgentError Plan
  | secret k =>
    match st.get? .secret k.key with
    | none => .ok .withdraw
    | some r => planOf r.secretData .ofSecret
  | binding k =>
    match st.get? .tlsBinding k.key with
    | none => .ok .withdraw
    | some r =>
      match r.tlsBinding with
      | .error e => .error (.decode e)
      | .ok b =>
        if b.snis.isEmpty then .ok .leave
        else
          match st.get? .secret ⟨k.owner, b.secretRef⟩ with
          | none => .ok .withdraw
          | some r => planOf r.secretData fun data ↦ (Certificate.ofSecret data).pin b.snis

end Subject

/-! ## Carrying out plans -/

/-- Nothing that is indexed has changed, nor have the services. -/
def Same (a₀ : AgentState) (s₀ : Services) (a : AgentState) (s : Services) : Prop :=
  (∀ k, a.directory.lookup? k = a₀.directory.lookup? k) ∧ s = s₀

/-- From `a₀` and `s₀` to `a` and `s` a plan was carried out for an entry of a stage. -/
structure Carried (t : Stage) (k : Identity) (p : Plan) (a₀ : AgentState) (s₀ : Services)
    (a : AgentState) (s : Services) : Prop where
  entry : ∀ k', a.directory.lookup? k' =
    if k' = k then p.entry (a₀.directory.lookup? k) else a₀.directory.lookup? k'
  services : p.Tells (a₀.directory.lookup? k) ∧ s = s₀.postpone t ∨
    ¬ p.Tells (a₀.directory.lookup? k) ∧ s = s₀

/-- From `a₀` and `s₀` to `a` and `s` the plan for a subject was carried out. -/
def Indexed (st : Store) (t : Stage) (u : Subject) (a₀ : AgentState) (s₀ : Services)
    (a : AgentState) (s : Services) : Prop :=
  ∃ p, u.plan st = .ok p ∧ Carried t u.place p a₀ s₀ a s

/-- From `a₀` and `s₀` to `a` and `s` the plans for some subjects were carried out in turn. -/
inductive IndexedAll (st : Store) (t : Stage) :
    List Subject → AgentState → Services → AgentState → Services → Prop
  | nil {a₀ s₀ a s} (h : Same a₀ s₀ a s) : IndexedAll st t [] a₀ s₀ a s
  | cons {u us a₀ s₀ a₁ s₁ a s} (h : Indexed st t u a₀ s₀ a₁ s₁)
    (hs : IndexedAll st t us a₁ s₁ a s) : IndexedAll st t (u :: us) a₀ s₀ a s

section Parts

variable {st : Store} {t : Stage} {u : Subject} {k : Identity} {p : Plan} {a₀ a : AgentState}
  {s₀ s : Services} {key : ResourceKey}

theorem Same.refl (a : AgentState) (s : Services) : Same a s a s :=
  ⟨fun _ ↦ rfl, rfl⟩

theorem Same.touch (h : Same a₀ s₀ a s) (t : Stage) : Same a₀ s₀ (asked a t) s :=
  ⟨fun k ↦ (IndexDirectory.lookup?_touch a.directory t k).trans (h.1 k), h.2⟩

/-- A plan to leave an entry alone is carried out by doing nothing. -/
theorem Same.left (h : Same a₀ s₀ a s) (k : Identity) : Carried t k .leave a₀ s₀ a s where
  entry k' := by
    rw [h.1]
    split
    · next hk => rw [hk, Plan.entry]
    · rfl
  services := .inr ⟨id, h.2⟩

theorem Carried.serves (h : Carried t k p a₀ s₀ a s) (hs : s₀.Serves st) : s.Serves st := by
  rcases h.services with ⟨-, rfl⟩ | ⟨-, rfl⟩
  · exact ⟨hs.store, hs.secrets, hs.bindings, hs.lists⟩
  · exact hs

theorem Carried.store (h : Carried t k p a₀ s₀ a s) : s.registry.store = s₀.registry.store := by
  rcases h.services with ⟨-, rfl⟩ | ⟨-, rfl⟩ <;> rfl

/-- A plan was carried out but for making the stage wait. -/
structure Written (k : Identity) (p : Plan) (a₀ : AgentState) (s₀ : Services) (changed : Bool)
    (a : AgentState) (s : Services) : Prop where
  told : changed = true ↔ p.Tells (a₀.directory.lookup? k)
  entry : ∀ k', a.directory.lookup? k' =
    if k' = k then p.entry (a₀.directory.lookup? k) else a₀.directory.lookup? k'
  services : s = s₀

theorem postponeIf_carried (changed : Bool) {E : AgentState → Services → Prop} :
    Triple Services.alone (Written k p a₀ s₀ changed) (Agent.postponeIf changed t)
      (fun _ ↦ Carried t k p a₀ s₀) E := by
  cases changed with
  | true =>
    refine .attempt ?_
    rintro a s ⟨htold, hentry, rfl⟩
    exact ⟨hentry, .inl ⟨htold.1 rfl, rfl⟩⟩
  | false =>
    refine .pure ?_
    rintro a s ⟨htold, hentry, rfl⟩
    exact ⟨hentry, .inr ⟨fun h ↦ Bool.false_ne_true (htold.2 h), rfl⟩⟩

theorem touch_same {E : AgentState → Services → Prop} :
    Triple Services.alone (Same a₀ s₀) (Agent.touch t) (fun _ ↦ Same a₀ s₀) E :=
  .modify fun _ _ h ↦ h.touch t

/-- A look at an object tells what is stored, unless the object cannot be read. -/
theorem find?_same (kind : Kind) (key : ResourceKey) :
    Triple Services.alone (Same a₀ s₀) (Agent.find? kind key)
      (fun r? a s ↦ r? = s₀.registry.store.get? kind key ∧ Same a₀ s₀ a s)
      (fun a s ↦ Faults.covers s₀.faults.get kind ∧ Same a₀ s₀ a s) := by
  refine .bind (Q := fun b a s ↦ b = (s₀.answer (.get kind key)).1 ∧ Same a₀ s₀ a s)
    (.attempt ?_) fun b ↦ .of_and fun hb ↦ ?_
  · rintro a s ⟨hsame, rfl⟩
    exact ⟨rfl, hsame, rfl⟩
  by_cases hfault : Faults.covers s₀.faults.get kind
  · have hb : b = .error Services.backendFault := hb.trans (if_pos hfault)
    subst hb
    exact .throw fun _ _ h ↦ ⟨hfault, h⟩
  · have hb : b = s₀.registry.get kind key := hb.trans (if_neg hfault)
    subst hb
    rw [Registry.get]
    cases s₀.registry.store.get? kind key <;> exact .pure fun _ _ h ↦ ⟨rfl, h⟩

/-- What is decoded could be. -/
theorem orThrow_same {α ε : Type} {wrap : ε → AgentError} {r : Except ε α}
    {E : AgentState → Services → Prop} (hE : ∀ e, r = .error e → ∀ a s, Same a₀ s₀ a s → E a s) :
    Triple Services.alone (Same a₀ s₀) (Agent.orThrow wrap r)
      (fun x a s ↦ r = .ok x ∧ Same a₀ s₀ a s) E :=
  .orThrow (fun _ hx _ _ h ↦ ⟨hx, h⟩) hE

section Write

variable (hkey : key.identity = k) (howner : k.owner.same t)
include hkey howner

theorem withdraw_written {E : AgentState → Services → Prop} :
    Triple Services.alone (Same a₀ s₀) (Agent.withdraw t key)
      (fun changed ↦ Written k .withdraw a₀ s₀ changed) E := by
  refine .of_state fun a s hsame ↦ ?_
  refine (withdraw_steady (E := E)).post ?_
  rintro changed a' s' ⟨rfl, rfl, rfl⟩
  have hfind := a.directory.find?_tracked_get howner
  refine ⟨?_, fun k' ↦ ?_, hsame.2⟩
  · rw [CertificateIndex.erase_tells, Option.isSome_iff_ne_none, hkey, hfind, hsame.1]
    rfl
  · rw [replaced, IndexDirectory.lookup?_set howner
      (hkey ▸ (a.directory.get t).find?_tracked_erase key), hsame.1]
    rfl

/-- A certificate is stored, if there is a plan to. -/
theorem store_written {c : Certificate} :
    Triple Services.alone (Same a₀ s₀) (Agent.store t key c)
      (fun changed a s ↦ Plan.storing c = .ok (.store c) ∧ Written k (.store c) a₀ s₀ changed a s)
      (fun a s ↦ (∃ e, Plan.storing c = .error e) ∧ Same a₀ s₀ a s) := by
  refine .of_state fun a s hsame ↦ ?_
  refine store_steady.mono (fun _ _ ↦ id) ?_ ?_
  · rintro changed a' s' ⟨hok, rfl, rfl⟩
    have hfind := a.directory.find?_tracked_get howner
    refine ⟨Plan.storing_of_insert hok.symm, ?_, fun k' ↦ ?_, hsame.2⟩
    · rw [CertificateIndex.insert_told_iff hok.symm, hkey, hfind, hsame.1]
      rfl
    · rw [replaced, IndexDirectory.lookup?_set howner
        (hkey ▸ CertificateIndex.find?_tracked_insert hok.symm), hsame.1]
      rfl
  · rintro a' s' ⟨⟨e, he⟩, rfl, rfl⟩
    refine ⟨⟨_, Plan.storing_of_insert_error he.symm⟩, ?_⟩
    rw [replaced, CertificateIndex.insert_of_error he.symm]
    exact hsame.touch t

end Write

end Parts

/-! ## Handlers -/

section Handlers

variable {st : Store} {t : Stage} {key : ResourceKey} {a₀ : AgentState} {s₀ : Services} {n : Notice}

/-- Where there is nothing that cannot be read, a subject has no plan. -/
def Planless (st : Store) (us : List Subject) (s₀ : Services) : Prop :=
  s₀.Serves st → ∃ u ∈ us, ∃ e, u.plan st = .error e

theorem planless_of_fault {us : List Subject} {kind : Kind}
    (hkind : kind = .secret ∨ kind = .tlsBinding) (h : Faults.covers s₀.faults.get kind) :
    Planless st us s₀ := by
  intro hs
  rcases hkind with rfl | rfl
  · exact absurd h hs.secrets
  · exact absurd h hs.bindings

theorem planless_of_plan {us : List Subject} {u : Subject} {e : AgentError} (hu : u ∈ us)
    (h : u.plan st = .error e) : Planless st us s₀ :=
  fun _ ↦ ⟨u, hu, e, h⟩

theorem Planless.mono {us us' : List Subject} (h : Planless st us s₀) (hus : us ⊆ us') :
    Planless st us' s₀ := by
  intro hs
  obtain ⟨u, hu, he⟩ := h hs
  exact ⟨u, hus hu, he⟩

/-- A binding is indexed, or nothing happens to its entry. -/
theorem indexBinding_indexed (hstage : key.stage.same t) (hst : s₀.registry.store = st) :
    Triple Services.alone (Same a₀ s₀) (Agent.indexBinding t key)
      (fun _ ↦ Indexed st t (.binding key.identity) a₀ s₀)
      (fun _ _ ↦ Planless st [.binding key.identity] s₀) := by
  have hplace : key.ofBinding.identity = (Subject.binding key.identity).place := rfl
  have howner : (Subject.binding key.identity).place.owner.same t :=
    hplace ▸ Stage.same_trans key.ofBinding.owner_identity_same hstage
  -- The handler asks for the secret of its stage, the plan for that of the owner of the binding.
  have hsecret (name : String) :
      st.get? .secret ⟨t, name⟩ = st.get? .secret ⟨key.identity.owner, name⟩ :=
    Store.get?_of_same (Stage.same_comm.1 hstage) .secret name
  have hwithdraw (hp : (Subject.binding key.identity).plan st = .ok .withdraw) :
      Triple Services.alone (Same a₀ s₀)
        (do let changed ← Agent.withdraw t key.ofBinding; Agent.postponeIf changed t)
        (fun _ ↦ Indexed st t (.binding key.identity) a₀ s₀)
        (fun _ _ ↦ Planless st [.binding key.identity] s₀) :=
    .bind (withdraw_written hplace howner) fun changed ↦
      (postponeIf_carried changed).post fun _ _ _ h ↦ ⟨_, hp, h⟩
  unfold Agent.indexBinding
  refine .bind touch_same fun _ ↦ ?_
  refine .bind ((find?_same .tlsBinding key).post_error fun _ _ h ↦
    planless_of_fault (.inr rfl) h.1) fun r? ↦ .of_and fun hr ↦ ?_
  rw [hst] at hr
  cases r? with
  | none => exact hwithdraw (by simp [Subject.plan, ← hr])
  | some r =>
    refine .bind (orThrow_same ?_) fun b ↦ .of_and fun hb ↦ ?_
    · exact fun f hf _ _ _ ↦ planless_of_plan (List.mem_singleton_self _) (e := .decode f)
        (by simp [Subject.plan, ← hr, hf])
    split
    · next hsnis =>
      exact .pure fun a s h ↦ ⟨.leave, by simp [Subject.plan, ← hr, hb, hsnis], h.left _⟩
    next hsnis =>
    refine .bind ((find?_same .secret _).post_error fun _ _ h ↦
      planless_of_fault (.inl rfl) h.1) fun secret? ↦ .of_and fun hs ↦ ?_
    rw [hst, hsecret] at hs
    cases secret? with
    | none => exact hwithdraw (by simp [Subject.plan, ← hr, hb, hsnis, ← hs])
    | some secret =>
      refine .bind (orThrow_same ?_) fun data ↦ .of_and fun hdata ↦ ?_
      · exact fun f hf _ _ _ ↦ planless_of_plan (List.mem_singleton_self _) (e := .decode f)
          (by simp [Subject.plan, ← hr, hb, hsnis, ← hs, Subject.planOf, hf])
      have hplan : (Subject.binding key.identity).plan st =
          Plan.storing ((Certificate.ofSecret data).pin b.snis) := by
        simp [Subject.plan, ← hr, hb, hsnis, ← hs, Subject.planOf, hdata]
      refine .bind ((store_written hplace howner).post_error ?_) fun changed ↦
        .of_and fun hstoring ↦
          (postponeIf_carried changed).post fun _ _ _ h ↦ ⟨_, hplan.trans hstoring, h⟩
      rintro a s ⟨⟨e, he⟩, -⟩
      exact planless_of_plan (List.mem_singleton_self _) (hplan.trans he)

/-- The plan for a subject was carried out, and then those for others are. -/
theorem indexedAll_cons {u : Subject} {us : List Subject} {w : Agent.Attempt Unit}
    (hst : s₀.registry.store = st)
    (hw : ∀ a s, s.registry.store = st → Triple Services.alone (Same a s) w
      (fun _ ↦ IndexedAll st t us a s) (fun _ _ ↦ Planless st us s)) :
    Triple Services.alone (Indexed st t u a₀ s₀) w
      (fun _ ↦ IndexedAll st t (u :: us) a₀ s₀) (fun _ _ ↦ Planless st (u :: us) s₀) := by
  refine .of_state fun a s ⟨p, hp, hcarried⟩ ↦ ?_
  refine (hw a s (hcarried.store.trans hst)).mono ?_ ?_ ?_
  · rintro _ _ ⟨rfl, rfl⟩
    exact .refl _ _
  · exact fun _ _ _ h ↦ .cons ⟨p, hp, hcarried⟩ h
  · intro _ _ hnone hs
    obtain ⟨u', hu, he⟩ := hnone (hcarried.serves hs)
    exact ⟨u', List.mem_cons_of_mem _ hu, he⟩

/-- The TLS bindings of a secret. -/
def bindingsOf (st : Store) (t : Stage) (secret : String) : List Subject :=
  ((st.list .tlsBinding t).filter (Agent.refersTo secret)).map fun r ↦ .binding r.key.identity

theorem forM_indexed (a₀ : AgentState) {rs : List Resource} (hrs : ∀ r ∈ rs, r.stage.same t)
    (hst : s₀.registry.store = st) :
    Triple Services.alone (Same a₀ s₀) (rs.forM fun r ↦ Agent.indexBinding t r.key)
      (fun _ ↦ IndexedAll st t (rs.map fun r ↦ .binding r.key.identity) a₀ s₀)
      (fun _ _ ↦ Planless st (rs.map fun r ↦ .binding r.key.identity) s₀) := by
  -- Each binding is indexed in the state that those before it have left behind.
  induction rs generalizing a₀ s₀ with
  | nil => exact .pure fun _ _ ↦ .nil
  | cons r rs ih =>
    obtain ⟨hr, hrs⟩ := List.forall_mem_cons.1 hrs
    refine .bind ((indexBinding_indexed hr hst).post_error fun _ _ hnone ↦ ?_) fun _ ↦
      indexedAll_cons hst fun a _ hst ↦ ih a hrs hst
    exact hnone.mono (List.cons_subset_cons _ (List.nil_subset _))

theorem indexBindingsOf_indexed (a₀ : AgentState) (hst : s₀.registry.store = st) (secret : String) :
    Triple Services.alone (Same a₀ s₀) (Agent.indexBindingsOf t secret)
      (fun _ ↦ IndexedAll st t (bindingsOf st t secret) a₀ s₀)
      (fun _ _ ↦ Planless st (bindingsOf st t secret) s₀) := by
  refine .bind (Q := fun b a s ↦ b = (s₀.answer (.list .tlsBinding t)).1 ∧ Same a₀ s₀ a s)
    (.attempt ?_) fun b ↦ .of_and fun hb ↦ ?_
  · rintro a s ⟨hsame, rfl⟩
    exact ⟨rfl, hsame, rfl⟩
  by_cases hfault : Faults.covers s₀.faults.list .tlsBinding
  · have hb : b = .error Services.backendFault := hb.trans (if_pos hfault)
    subst hb
    exact .throw fun _ _ _ hs ↦ absurd hfault hs.lists
  · have hb : b = .ok (st.list .tlsBinding t) := (hb.trans (if_neg hfault)).trans (by rw [hst])
    subst hb
    refine forM_indexed a₀ (fun r hr ↦ ?_) hst
    exact (Store.mem_list.1 (List.mem_filter.1 hr).1).2.2

/-- A secret and its bindings are indexed; if there is no plan for the secret, nothing happens. -/
theorem indexSecret_indexed (hstage : key.stage.same t) (hst : s₀.registry.store = st) :
    Triple Services.alone (Same a₀ s₀) (Agent.indexSecret t key)
      (fun _ ↦ IndexedAll st t (.secret key.identity :: bindingsOf st t key.name) a₀ s₀)
      (fun a s ↦ Planless st (.secret key.identity :: bindingsOf st t key.name) s₀ ∧
        ∀ e, (Subject.secret key.identity).plan st = .error e → Same a₀ s₀ a s) := by
  have hplace : key.identity = (Subject.secret key.identity).place := rfl
  have howner : (Subject.secret key.identity).place.owner.same t :=
    Stage.same_trans key.owner_identity_same hstage
  have hrest {p : Plan} (hp : (Subject.secret key.identity).plan st = .ok p) (changed : Bool) :
      Triple Services.alone (Written key.identity p a₀ s₀ changed)
        (do Agent.postponeIf changed t; Agent.indexBindingsOf t key.name)
        (fun _ ↦ IndexedAll st t (.secret key.identity :: bindingsOf st t key.name) a₀ s₀)
        (fun a s ↦ Planless st (.secret key.identity :: bindingsOf st t key.name) s₀ ∧
          ∀ e, (Subject.secret key.identity).plan st = .error e → Same a₀ s₀ a s) := by
    refine .bind (Q := fun _ ↦ Indexed st t (.secret key.identity) a₀ s₀) ?_ fun _ ↦
      (indexedAll_cons hst fun a _ hst ↦ indexBindingsOf_indexed a hst key.name).post_error ?_
    · exact (postponeIf_carried changed).post fun _ _ _ h ↦ ⟨p, hp, h⟩
    · exact fun _ _ hnone ↦ ⟨hnone, fun e he ↦ by cases hp.symm.trans he⟩
  have hstuck {e : AgentError} (he : (Subject.secret key.identity).plan st = .error e) :
      Planless st (.secret key.identity :: bindingsOf st t key.name) s₀ :=
    planless_of_plan (List.mem_cons_self ..) he
  unfold Agent.indexSecret
  refine .bind touch_same fun _ ↦ ?_
  refine .bind ((find?_same .secret key).post_error fun _ _ h ↦
    ⟨planless_of_fault (.inl rfl) h.1, fun _ _ ↦ h.2⟩) fun r? ↦ .of_and fun hr ↦ ?_
  rw [hst] at hr
  cases r? with
  | none =>
    exact .bind (withdraw_written hplace howner) (hrest (by simp [Subject.plan, ← hr]))
  | some r =>
    refine .bind (orThrow_same ?_) fun data ↦ .of_and fun hdata ↦ ?_
    · exact fun f hf _ _ h ↦ ⟨hstuck (e := .decode f)
        (by simp [Subject.plan, ← hr, Subject.planOf, hf]), fun _ _ ↦ h⟩
    have hplan : (Subject.secret key.identity).plan st = Plan.storing (.ofSecret data) := by
      simp [Subject.plan, ← hr, Subject.planOf, hdata]
    refine .bind ((store_written hplace howner).post_error ?_) fun changed ↦
      .of_and fun hstoring ↦ hrest (hplan.trans hstoring) changed
    rintro a s ⟨⟨e, he⟩, h⟩
    exact ⟨hstuck (hplan.trans he), fun _ _ ↦ h⟩

/-- The subjects that a notice of a secret or of a binding is about, in the order in which they are
indexed. -/
def subjectsOf (st : Store) (n : Notice) : List Subject :=
  if n.kind = .secret then .secret n.key.identity :: bindingsOf st n.stage n.name
  else [.binding n.key.identity]

/-- Whether a notice is about a certificate. -/
def OfCertificate (n : Notice) : Prop :=
  n.kind = .secret ∨ n.kind = .tlsBinding

theorem handleCertificates_indexed {most : UInt32} (hkind : OfCertificate n)
    (hmost : n.retries ≤ most) (hst : s₀.registry.store = st) :
    Triple Services.alone (Same a₀ s₀) (Agent.handleCertificates most n)
      (fun _ ↦ IndexedAll st n.stage (subjectsOf st n) a₀ s₀)
      (fun a s ↦ Planless st (subjectsOf st n) s₀ ∧
        ∀ e, n.kind = .secret → (Subject.secret n.key.identity).plan st = .error e →
          Same a₀ s₀ a s) := by
  unfold Agent.handleCertificates subjectsOf
  rw [if_neg (UInt32.not_lt.2 hmost)]
  rcases hkind with hkind | hkind
  · rw [hkind, if_pos rfl]
    refine .bind (Q := fun _ ↦ IndexedAll st n.stage _ a₀ s₀) ?_ fun _ ↦ .pure fun _ _ ↦ id
    exact (indexSecret_indexed (Stage.same_refl n.stage) hst).mono (fun _ _ ↦ id)
      (fun _ _ _ ↦ id) fun _ _ h ↦ ⟨h.1, fun e _ ↦ h.2 e⟩
  · rw [hkind, if_neg (by simp)]
    refine .bind (Q := fun _ ↦ IndexedAll st n.stage _ a₀ s₀) ?_ fun _ ↦ .pure fun _ _ ↦ id
    refine (indexBinding_indexed (Stage.same_refl n.stage) hst).mono (fun _ _ ↦ id) ?_ ?_
    · exact fun _ a s h ↦ .cons h (.nil (.refl a s))
    · exact fun _ _ h ↦ ⟨h, nofun⟩

/-- The services once a notice was received. -/
def received (n : Notice) (s : Services) : Services :=
  (s.answer (.note (.received n.kind))).2

/-- What is done first when a notice of a certificate is handled. -/
def tried (most : UInt32) (n : Notice) (a : AgentState) (s : Services) :
    (Except AgentError (List Stage) × AgentState) × Services :=
  ((Agent.handleCertificates most n).run.run a).run Services.host (received n s)

theorem succeeds_iff {most : UInt32} {a : AgentState} {s : Services} :
    Succeeds most n a s ↔ ∃ stages, (tried most n a s).1.1 = .ok stages := Iff.rfl

section Tried

variable {most : UInt32} {a a' : AgentState} {s s' : Services} (hkind : OfCertificate n)
include hkind

/-- What follows from how a notice was tried. -/
theorem handle_tried {Q : Agent.Handled → AgentState → Services → Prop}
    (hok : ∀ stages a' s', tried most n a s = ((.ok stages, a'), s') → Q (.batch stages) a' s')
    (herror : ∀ e a' s', tried most n a s = ((.error e, a'), s') →
      ((Agent.retryLater n).run a').wp Services.alone (fun r ↦ Q r.1 r.2) s') :
    Leads Services.alone (fun a' s' ↦ a' = a ∧ s' = s) (Agent.handle most n) Q := by
  have hcertificate : n.kind.isCertificate = true := by
    rcases hkind with hk | hk <;> rw [hk] <;> rfl
  have hinstance : n.kind ≠ .gatewayInstance := by
    rcases hkind with hk | hk <;> simp [hk]
  unfold Agent.handle
  rw [if_neg hinstance, hcertificate, Bool.or_true, if_pos rfl]
  refine .bind (Q := fun _ a' s' ↦ a' = a ∧ s' = received n s) (.ask ?_) fun _ ↦ ?_
  · rintro a' s' ⟨rfl, rfl⟩
    exact ⟨rfl, rfl⟩
  refine .bind (Q := fun r a' s' ↦ tried most n a s = ((r, a'), s')) ?_ fun r ↦ ?_
  · rintro a' s' ⟨rfl, rfl⟩
    exact Job.wp_alone.2 rfl
  cases r with
  | ok stages => exact .pure (hok stages)
  | error e => exact herror e

theorem handledOnce_of_ok {stages : List Stage} (h : tried most n a s = ((.ok stages, a'), s')) :
    handledOnce most n a s = ((.batch stages, a'), s') := by
  have hrun : Leads Services.alone (fun a₀ s₀ ↦ a₀ = a ∧ s₀ = s) (Agent.handle most n)
      fun r a₁ s₁ ↦ ((r, a₁), s₁) = ((.batch stages, a'), s') := by
    refine handle_tried hkind ?_ ?_
    · intro stages' a₁ s₁ h'
      cases h.symm.trans h'
      rfl
    · intro e a₁ s₁ h'
      cases h.symm.trans h'
  exact Job.wp_alone.1 (hrun a s ⟨rfl, rfl⟩)

/-- A notice whose handling fails is handled again later. -/
theorem handledOnce_of_error {e : AgentError} (h : tried most n a s = ((.error e, a'), s')) :
    handledOnce most n a s = ((Agent.retryLater n).run a').run Services.host s' := by
  have hrun : Leads Services.alone (fun a₀ s₀ ↦ a₀ = a ∧ s₀ = s) (Agent.handle most n)
      fun r a₁ s₁ ↦ ((r, a₁), s₁) = ((Agent.retryLater n).run a').run Services.host s' := by
    refine handle_tried hkind ?_ ?_
    · intro stages a₁ s₁ h'
      cases h.symm.trans h'
    · intro e' a₁ s₁ h'
      cases h.symm.trans h'
      exact Job.wp_alone.2 rfl
  exact Job.wp_alone.1 (hrun a s ⟨rfl, rfl⟩)

variable (hmost : n.retries ≤ most)
include hmost

theorem indexedAll_of_tried {stages : List Stage} (h : tried most n a s = ((.ok stages, a'), s')) :
    IndexedAll s.registry.store n.stage (subjectsOf s.registry.store n) a (received n s) a' s' := by
  have hst : (received n s).registry.store = s.registry.store := rfl
  have hrun := Job.wp_alone.1 (handleCertificates_indexed hkind hmost hst a _ (.refl a _))
  unfold tried at h
  rwa [h] at hrun

theorem planless_of_tried {e : AgentError} (h : tried most n a s = ((.error e, a'), s')) :
    Planless s.registry.store (subjectsOf s.registry.store n) (received n s) ∧
      ∀ e, n.kind = .secret → (Subject.secret n.key.identity).plan s.registry.store = .error e →
        Same a (received n s) a' s' := by
  have hst : (received n s).registry.store = s.registry.store := rfl
  have hrun := Job.wp_alone.1 (handleCertificates_indexed hkind hmost hst a _ (.refl a _))
  unfold tried at h
  rwa [h] at hrun

/-- Once a notice was handled without an error, all its subjects are indexed. -/
theorem indexedAll_handledOnce (h : Succeeds most n a s) :
    IndexedAll s.registry.store n.stage (subjectsOf s.registry.store n) a (received n s)
      (handledOnce most n a s).1.2 (handledOnce most n a s).2 := by
  obtain ⟨stages, hok⟩ := succeeds_iff.1 h
  rcases htried : tried most n a s with ⟨⟨e | stages', a'⟩, s'⟩
  · rw [htried] at hok
    cases hok
  · rw [handledOnce_of_ok hkind htried]
    exact indexedAll_of_tried hkind hmost htried

end Tried

end Handlers

/-! ## Sequences of plans -/

namespace IndexedAll

variable {st : Store} {t : Stage} {us : List Subject} {a₀ a : AgentState} {s₀ s : Services}
  {k : Identity}

/-- An entry that all plans for it leave alone stays as it is. -/
theorem lookup?_of_leave (h : IndexedAll st t us a₀ s₀ a s)
    (hk : ∀ u ∈ us, u.place = k → u.plan st = .ok .leave) :
    a.directory.lookup? k = a₀.directory.lookup? k := by
  induction h with
  | nil h => exact h.1 k
  | cons h _ ih =>
    obtain ⟨p, hp, hcarried⟩ := h
    obtain ⟨hu, hus⟩ := List.forall_mem_cons.1 hk
    rw [ih hus, hcarried.entry]
    split
    · next hku =>
      obtain rfl : p = .leave := Except.ok.inj (hp.symm.trans (hu hku.symm))
      rw [hku, Plan.entry]
    · rfl

/-- An entry becomes what all plans for it make of it, if there is one. -/
theorem lookup?_of_plan (h : IndexedAll st t us a₀ s₀ a s) {v : Option Tracked}
    (hk : ∀ u ∈ us, u.place = k → ∃ p, u.plan st = .ok p ∧ ∀ w, p.entry w = v)
    (hv : a₀.directory.lookup? k = v ∨ ∃ u ∈ us, u.place = k) : a.directory.lookup? k = v := by
  induction h with
  | nil h => exact (h.1 k).trans (hv.resolve_right (by simp))
  | @cons u us a₀ s₀ a₁ s₁ a s h _ ih =>
    obtain ⟨p, hp, hcarried⟩ := h
    obtain ⟨hu, hus⟩ := List.forall_mem_cons.1 hk
    refine ih hus ?_
    rw [hcarried.entry]
    -- What comes later at the same place makes the same of the entry.
    by_cases hku : k = u.place
    · obtain ⟨p', hp', hentry⟩ := hu hku.symm
      obtain rfl := Except.ok.inj (hp.symm.trans hp')
      exact .inl (by rw [if_pos hku, hentry])
    · rw [if_neg hku]
      refine hv.imp_right ?_
      rintro ⟨u', hu', hplace⟩
      rcases List.mem_cons.1 hu' with rfl | hu'
      · exact absurd hplace.symm hku
      · exact ⟨u', hu', hplace⟩

theorem exists_plan (h : IndexedAll st t us a₀ s₀ a s) {u : Subject} (hu : u ∈ us) :
    ∃ p, u.plan st = .ok p := by
  induction h with
  | nil => cases hu
  | cons h _ ih =>
    obtain ⟨p, hp, -⟩ := h
    rcases List.mem_cons.1 hu with rfl | hu
    · exact ⟨p, hp⟩
    · exact ih hu

/-- Where no plan tells of a change, the services stay as they are. -/
theorem services_eq (h : IndexedAll st t us a₀ s₀ a s)
    (hus : ∀ u ∈ us, ∀ p, u.plan st = .ok p → ∀ v, ¬ p.Tells v) : s = s₀ := by
  induction h with
  | nil h => exact h.2
  | cons h _ ih =>
    obtain ⟨p, hp, hcarried⟩ := h
    obtain ⟨hu, hus⟩ := List.forall_mem_cons.1 hus
    rcases hcarried.services with ⟨htells, -⟩ | ⟨-, rfl⟩
    · exact absurd htells (hu p hp _)
    · exact ih hus

/-- A stage that waits goes on to wait. -/
theorem waits (h : IndexedAll st t us a₀ s₀ a s) (ht : t ∈ s₀.debouncer.stages) :
    t ∈ s.debouncer.stages := by
  induction h with
  | nil h => exact h.2 ▸ ht
  | cons h _ ih =>
    obtain ⟨p, -, hcarried⟩ := h
    refine ih ?_
    rcases hcarried.services with ⟨-, rfl⟩ | ⟨-, rfl⟩
    · exact Debouncer.mem_stages_update_self
    · exact ht

/-- A stage waits if an entry was there and is to be withdrawn. -/
theorem waits_of_withdraw (h : IndexedAll st t us a₀ s₀ a s)
    (hk : ∀ u ∈ us, u.place = k → u.plan st = .ok .withdraw) (hu : ∃ u ∈ us, u.place = k)
    (hv : a₀.directory.lookup? k ≠ none) : t ∈ s.debouncer.stages := by
  induction h with
  | nil h => simp at hu
  | @cons u us a₀ s₀ a₁ s₁ a s h hs ih =>
    obtain ⟨p, hp, hcarried⟩ := h
    obtain ⟨hhead, hus⟩ := List.forall_mem_cons.1 hk
    by_cases hku : k = u.place
    · obtain rfl := Except.ok.inj (hp.symm.trans (hhead hku.symm))
      rcases hcarried.services with ⟨-, rfl⟩ | ⟨htells, -⟩
      · exact hs.waits Debouncer.mem_stages_update_self
      · exact absurd (hku ▸ hv) htells
    · refine ih hus ?_ ?_
      · obtain ⟨u', hu', hplace⟩ := hu
        rcases List.mem_cons.1 hu' with rfl | hu'
        · exact absurd hplace.symm hku
        · exact ⟨u', hu', hplace⟩
      · rwa [hcarried.entry, if_neg hku]

end IndexedAll

/-! ## Entries of bindings -/

section Entries

variable {st : Store} {n : Notice} {key : ResourceKey}

/-- A secret is looked up in the stage of the binding. -/
theorem get?_owner (st : Store) (key : ResourceKey) (kind : Kind) (name : String) :
    st.get? kind ⟨key.identity.owner, name⟩ = st.get? kind ⟨key.stage, name⟩ := rfl

/-- Two bindings have the same place only if they are the same. -/
theorem binding_place_inj {k k' : Identity}
    (h : (Subject.binding k).place = (Subject.binding k').place) : k = k' :=
  Subject.binding.inj (Subject.Unmarked.place_inj nofun nofun h)

/-- The entry of a binding. -/
def entryOf (a : AgentState) (key : ResourceKey) : Option Tracked :=
  (a.directory.get key.stage).tracked.find? key.ofBinding.identity

theorem lookup?_place (a : AgentState) (key : ResourceKey) :
    a.directory.lookup? (Subject.binding key.identity).place = entryOf a key :=
  (a.directory.find?_tracked_get key.ofBinding.owner_identity_same).symm

theorem eq_of_mem_bindingsOf {t : Stage} {secret : String} {u : Subject}
    (hu : u ∈ bindingsOf st t secret) (h : u.place = (Subject.binding key.identity).place) :
    u = .binding key.identity := by
  obtain ⟨r, -, rfl⟩ := List.mem_map.1 hu
  rw [binding_place_inj h]

/-- Whether the handling of a notice gets to a TLS binding. -/
def Reaches (st : Store) (n : Notice) (key : ResourceKey) : Prop :=
  n.kind = .tlsBinding ∧ n.key = key ∨
    n.kind = .secret ∧ ∃ r ∈ st.list .tlsBinding n.stage, Agent.refersTo n.name r ∧ r.key = key

theorem Reaches.mem_subjectsOf (h : Reaches st n key) :
    .binding key.identity ∈ subjectsOf st n := by
  unfold subjectsOf
  rcases h with ⟨hkind, rfl⟩ | ⟨hkind, r, hr, hrefers, rfl⟩
  · rw [hkind]
    exact List.mem_singleton_self _
  · rw [if_pos hkind]
    exact List.mem_cons_of_mem _ (List.mem_map_of_mem (List.mem_filter.2 ⟨hr, hrefers⟩))

theorem Reaches.ofCertificate (h : Reaches st n key) : OfCertificate n :=
  h.elim (fun h ↦ .inr h.1) fun h ↦ .inl h.1

/-- A listed binding is the one that is looked up. -/
theorem get?_of_mem_list (hst : st.Placed) {kind : Kind} {t : Stage} {r : Resource}
    (hr : r ∈ st.list kind t) : st.get? kind r.key = some r := by
  obtain ⟨hmem, rfl, -⟩ := Store.mem_list.1 hr
  exact hst.mem_resources_iff.1 hmem

/-- After a secret its bindings are indexed, so that an entry is theirs in the end. -/
theorem entryOf_of_plan {a₀ a : AgentState} {s₀ s : Services} {p : Plan} {v : Option Tracked}
    (h : IndexedAll st n.stage (subjectsOf st n) a₀ s₀ a s) (hn : Reaches st n key)
    (hp : (Subject.binding key.identity).plan st = .ok p) (hv : ∀ w, p.entry w = v) :
    entryOf a key = v := by
  have hplan {u : Subject} (hu : u = .binding key.identity) :
      ∃ p, u.plan st = .ok p ∧ ∀ w, p.entry w = v := ⟨p, hu ▸ hp, hv⟩
  have hmem := hn.mem_subjectsOf
  rw [← lookup?_place]
  unfold subjectsOf at h hmem
  split at h
  · next hkind =>
    rw [if_pos hkind] at hmem
    cases h with
    | cons _ hrest =>
      -- The secret itself may have the place of the binding, but its plan is carried out first.
      refine hrest.lookup?_of_plan (fun u hu hplace ↦ hplan (eq_of_mem_bindingsOf hu hplace))
        (.inr ⟨_, (List.mem_cons.1 hmem).resolve_left nofun, rfl⟩)
  · next hkind =>
    rw [if_neg hkind] at hmem
    refine h.lookup?_of_plan (fun u hu hplace ↦ hplan ?_) (.inr ⟨_, hmem, rfl⟩)
    obtain rfl := List.mem_singleton.1 hu
    rw [binding_place_inj hplace]

end Entries

end Indexing

end StageRelay
