import StageRelay.Proofs.Indexing.Rebinding
import StageRelay.Proofs.Sni.Shape

/-!
# Secrets that get other material

The bindings of a secret are indexed after the secret. They get the new material of the secret, for
the names that they declare, if the names of the secret itself can be told; if they cannot, the
handling of the notice ends at the secret, and its bindings keep what they had.
-/

namespace StageRelay

theorem Certificate.tracked?_pin {c : Certificate} {snis : List String}
    (hkey : c.isKeyEncrypted = false) (h : ∃ sni ∈ snis, Sni.normalize? sni ≠ none) :
    (c.pin snis).tracked? = some ⟨c.pin snis, .ofList (snis.filterMap Sni.normalize?)⟩ := by
  refine tracked?_eq_some_iff.2 ⟨rfl, hkey, sniSet_of_pinned rfl, ?_⟩
  obtain ⟨sni, hsni, hname⟩ := h
  obtain ⟨name, hname⟩ := Option.ne_none_iff_exists'.1 hname
  exact List.ne_nil_of_mem (NameSet.mem_ofList.2 (List.mem_filterMap.2 ⟨sni, hsni, hname⟩))

namespace Indexing

variable {st : Store} {n : Notice} {most : UInt32} {a : AgentState} {s : Services}
  {r : Resource} {data : SecretData}

/-- A TLS binding of the secret of a notice that could be served with the certificate of the
secret. -/
structure Servable (st : Store) (n : Notice) (c : Certificate) (r : Resource) (b : TlsBinding) :
    Prop where
  listed : r ∈ st.list .tlsBinding n.stage
  decodes : r.tlsBinding = .ok b
  refers : b.secretRef = n.name
  unencrypted : c.isKeyEncrypted = false
  named : ∃ sni ∈ b.snis, Sni.normalize? sni ≠ none

/-- A binding is indexed with a certificate, for the names that it declares. -/
def IndexedWith (a : AgentState) (c : Certificate) (r : Resource) (b : TlsBinding) : Prop :=
  entryOf a r.key = some ⟨c.pin b.snis, .ofList (b.snis.filterMap Sni.normalize?)⟩

theorem Plan.storing_pin (c : Certificate) (snis : List String) :
    storing (c.pin snis) = .ok (.store (c.pin snis)) := by
  unfold storing
  split
  · rfl
  · rw [Certificate.sniSet_of_pinned rfl]

section Plans

variable (hr : st.get? .secret n.key = some r) (hdata : r.secretData = .ok data)
include hr hdata

theorem plan_of_secret :
    (Subject.secret n.key.identity).plan st = Plan.storing (.ofSecret data) := by
  simp [Subject.plan, hr, Subject.planOf, hdata]

variable (hst : st.Placed)
include hst

/-- A binding of a secret that decodes has a plan. -/
theorem plan_of_refersTo {r' : Resource} {b : TlsBinding} (hr' : r' ∈ st.list .tlsBinding n.stage)
    (hb : r'.tlsBinding = .ok b) (href : b.secretRef = n.name) :
    (Subject.binding r'.key.identity).plan st =
      .ok (if b.snis.isEmpty then .leave else .store ((Certificate.ofSecret data).pin b.snis)) := by
  have hget := get?_of_mem_list hst hr'
  have hsecret : st.get? .secret ⟨r'.key.stage, b.secretRef⟩ = some r := by
    rw [← hr, href]
    exact Store.get?_of_same (Store.mem_list.1 hr').2.2 .secret n.name
  split
  · next hsnis => simp [Subject.plan, hget, hb, hsnis]
  · next hsnis =>
    simp [Subject.plan, hget, hb, hsnis, get?_owner, hsecret, Subject.planOf, hdata,
      Plan.storing_pin]

/-- All bindings of a secret that decodes have plans. -/
theorem exists_plan_of_mem_bindingsOf {u : Subject} (hu : u ∈ bindingsOf st n.stage n.name) :
    ∃ p, u.plan st = .ok p := by
  obtain ⟨r', hr', rfl⟩ := List.mem_map.1 hu
  obtain ⟨hlist, hrefers⟩ := List.mem_filter.1 hr'
  cases hb : r'.tlsBinding with
  | error f => simp [Agent.refersTo, hb] at hrefers
  | ok b =>
    have href : b.secretRef = n.name := by simpa [Agent.refersTo, hb] using hrefers
    exact ⟨_, plan_of_refersTo hr hdata hst hlist hb href⟩

end Plans

/-! ## Handling a notice -/

theorem received_serves (hs : s.Serves st) : (received n s).Serves st :=
  ⟨hs.store, hs.secrets, hs.bindings, hs.lists⟩

/-- A notice that was tried too often leaves everything as it is. -/
theorem entryOf_of_exhausted (hkind : OfCertificate n) (hmost : most < n.retries)
    (key : ResourceKey) : entryOf (handledOnce most n a s).1.2 key = entryOf a key := by
  have htried : ∃ s', tried most n a s = ((.ok [], a), s') := by
    unfold tried Agent.handleCertificates
    rw [if_pos hmost]
    exact ⟨_, rfl⟩
  obtain ⟨s', htried⟩ := htried
  rw [handledOnce_of_ok hkind htried]

section Secret

variable (hs : s.Serves st) (hkind : n.kind = .secret)
  (hr : st.get? .secret n.key = some r) (hdata : r.secretData = .ok data)
include hs hkind hr hdata

/-- If the names of a secret cannot be told, nothing that is indexed changes. -/
theorem entryOf_of_storing_error (hmost : n.retries ≤ most) {e : AgentError}
    (he : Plan.storing (.ofSecret data) = .error e) (key : ResourceKey) :
    entryOf (handledOnce most n a s).1.2 key = entryOf a key := by
  obtain rfl := hs.store
  have hplan := (plan_of_secret hr hdata).trans he
  rcases htried : tried most n a s with ⟨⟨e' | stages, a'⟩, s'⟩
  · obtain ⟨-, hkept⟩ := planless_of_tried (.inl hkind) hmost htried
    obtain ⟨hsame, rfl⟩ := hkept e hkind hplan
    rw [handledOnce_of_error (.inl hkind) htried]
    have hunmoved : Unmoved s.registry.store a' a' (received n s) := ⟨rfl, rfl, received_serves hs⟩
    have hkept : (((Agent.retryLater n).run a').run Services.host (received n s)).1.2.directory =
        a'.directory := (Job.wp_alone.1 (retryLater_unmoved a' _ hunmoved)).1.directory
    rw [← lookup?_place, ← lookup?_place, hkept, hsame]
  · have hmem : Subject.secret n.key.identity ∈ subjectsOf s.registry.store n := by
      rw [subjectsOf, if_pos hkind]
      exact List.mem_cons_self ..
    obtain ⟨p, hp⟩ := (indexedAll_of_tried (.inl hkind) hmost htried).exists_plan hmem
    cases hp.symm.trans hplan

variable (hst : st.Placed)
include hst

/-- A notice of a secret whose names can be told is handled without an error. -/
theorem succeeds_of_storing (hmost : n.retries ≤ most) {p : Plan}
    (hp : Plan.storing (.ofSecret data) = .ok p) : Succeeds most n a s := by
  obtain rfl := hs.store
  have hplans : ∀ u ∈ subjectsOf s.registry.store n, ∃ p, u.plan s.registry.store = .ok p := by
    intro u hu
    rw [subjectsOf, if_pos hkind] at hu
    rcases List.mem_cons.1 hu with rfl | hu
    · exact ⟨p, (plan_of_secret hr hdata).trans hp⟩
    · -- The names that a binding declares need no certificate, so there always is a plan for it.
      exact exists_plan_of_mem_bindingsOf hr hdata hst hu
  rcases htried : tried most n a s with ⟨⟨e | stages, a'⟩, s'⟩
  · obtain ⟨hnone, -⟩ := planless_of_tried (.inl hkind) hmost htried
    obtain ⟨u, hu, e, he⟩ := hnone (received_serves hs)
    obtain ⟨p, hp⟩ := hplans u hu
    cases hp.symm.trans he
  · exact succeeds_iff.2 ⟨stages, by rw [htried]⟩

/-- The bindings of a secret whose names can be told are indexed with its material. -/
theorem indexedWith_of_storing (hmost : n.retries ≤ most) {p : Plan}
    (hp : Plan.storing (.ofSecret data) = .ok p) {r' : Resource} {b : TlsBinding}
    (hb : Servable st n (.ofSecret data) r' b) :
    IndexedWith (handledOnce most n a s).1.2 (.ofSecret data) r' b := by
  have hsucceeds := succeeds_of_storing (a := a) hs hkind hr hdata hst hmost hp
  have hall := indexedAll_handledOnce (.inl hkind) hmost hsucceeds
  rw [hs.store] at hall
  have hrefers : Agent.refersTo n.name r' := by simpa [Agent.refersTo, hb.decodes] using hb.refers
  obtain ⟨sni, hsni, hname⟩ := hb.named
  have hsnis : b.snis.isEmpty = false := by
    rw [List.isEmpty_eq_false_iff]
    exact List.ne_nil_of_mem hsni
  have hplan := plan_of_refersTo hr hdata hst hb.listed hb.decodes hb.refers
  rw [hsnis, if_neg Bool.false_ne_true] at hplan
  refine entryOf_of_plan hall (.inr ⟨hkind, r', hb.listed, hrefers, rfl⟩) hplan fun _ ↦ ?_
  exact Certificate.tracked?_pin hb.unencrypted ⟨sni, hsni, hname⟩

/-- After the notice of a secret, all bindings of the secret that could be served are indexed with
its material exactly if the notice was not tried too often and the names of the secret itself can be
told, or if they were indexed with it before. -/
theorem rotated_iff (most : UInt32) (a : AgentState) :
    (∀ r' b, Servable st n (.ofSecret data) r' b →
      IndexedWith (handledOnce most n a s).1.2 (.ofSecret data) r' b) ↔
    (n.retries ≤ most ∧ ∃ names, (Certificate.ofSecret data).sniSet = .ok names) ∨
      ∀ r' b, Servable st n (.ofSecret data) r' b → IndexedWith a (.ofSecret data) r' b := by
  have hunchanged (h : ∀ key, entryOf (handledOnce most n a s).1.2 key = entryOf a key)
      (hnot : ¬ (n.retries ≤ most ∧ ∃ names, (Certificate.ofSecret data).sniSet = .ok names)) :
      (∀ r' b, Servable st n (.ofSecret data) r' b →
        IndexedWith (handledOnce most n a s).1.2 (.ofSecret data) r' b) ↔
      (n.retries ≤ most ∧ ∃ names, (Certificate.ofSecret data).sniSet = .ok names) ∨
        ∀ r' b, Servable st n (.ofSecret data) r' b → IndexedWith a (.ofSecret data) r' b := by
    simp only [IndexedWith, h, hnot, false_or]
  by_cases hmost : n.retries ≤ most
  · cases hsniSet : (Certificate.ofSecret data).sniSet with
    | ok names =>
      have hp : Plan.storing (.ofSecret data) = .ok (.store (.ofSecret data)) := by
        simp [Plan.storing, hsniSet]
      exact iff_of_true (fun _ _ hb ↦ indexedWith_of_storing hs hkind hr hdata hst hmost hp hb)
        (.inl ⟨hmost, names, rfl⟩)
    | error e =>
      cases hkey : (Certificate.ofSecret data).isKeyEncrypted with
      | true =>
        -- No binding could be served with an encrypted key.
        have hnone {r' : Resource} {b : TlsBinding} (hb : Servable st n (.ofSecret data) r' b) :
            False := Bool.false_ne_true (hb.unencrypted.symm.trans hkey)
        exact iff_of_true (fun _ _ hb ↦ (hnone hb).elim) (.inr fun _ _ hb ↦ (hnone hb).elim)
      | false =>
        have he : Plan.storing (.ofSecret data) = .error (.certificate e) := by
          simp [Plan.storing, hkey, hsniSet]
        have hkept := entryOf_of_storing_error (a := a) hs hkind hr hdata hmost he
        have hfails := hunchanged hkept (by simp [hsniSet])
        rwa [hsniSet] at hfails
  · exact hunchanged (entryOf_of_exhausted (.inl hkind) (UInt32.not_le.1 hmost))
      fun h ↦ hmost h.1

end Secret

open Sample

/-- The secret with a certificate and a key. -/
def renewed (chain key : String) : Resource :=
  { secret with
    spec := .object [("data", .object [("tls.crt", .string chain), ("tls.key", .string key)])] }

/-- The content of that secret. -/
def renewal (chain key : String) : SecretData :=
  ⟨[("tls.crt", chain), ("tls.key", key)]⟩

theorem proper_renewed (chain key : String) : ProperNotice (Edit.put (renewed chain key)).notice :=
  proper_secret

theorem serves_after (e : Edit) : (after e).Serves (after e).registry.store := by
  have hfaults : rested.services.faults = {} := by decide +kernel
  unfold after
  refine ⟨rfl, ?_, ?_, ?_⟩ <;> rw [hfaults] <;> decide

theorem get?_renewed (chain key : String) :
    (after (.put (renewed chain key))).registry.store.get? .secret (renewed chain key).key =
      some (renewed chain key) :=
  Store.get?_put.trans (if_pos rfl)

/-- The binding could be served with the secret that was put. -/
theorem exists_servable {chain key : String} (hkey : Certificate.isEncrypted key = false)
    (h : ((after (.put (renewed chain key))).registry.store.get? .tlsBinding (binding []).key).map
      (fun r ↦ (r.kind, r.key, r.tlsBinding)) =
        some (.tlsBinding, (binding []).key, .ok ⟨"cert", ["b.com"]⟩)) :
    ∃ r, Servable (after (.put (renewed chain key))).registry.store (renewed chain key).notice
      (.ofSecret (renewal chain key)) r ⟨"cert", ["b.com"]⟩ ∧ r.key = (binding []).key := by
  obtain ⟨r, hr, hrkey, hb⟩ := exists_listed (proper_renewed chain key) h
  refine ⟨r, ⟨hr, hb, rfl, hkey, "b.com", List.mem_singleton_self _, ?_⟩, hrkey⟩
  decide +kernel

/-- The secret gets another key, and with it the binding. -/
theorem rotated_to_new_key :
    let e : Edit := .put (renewed pem "new")
    let c := Certificate.ofSecret (renewal pem "new")
    ((after e).Serves (after e).registry.store ∧ (after e).registry.store.Placed ∧
      e.notice.kind = .secret ∧
      (after e).registry.store.get? .secret e.notice.key = some (renewed pem "new") ∧
      (renewed pem "new").secretData = .ok (renewal pem "new")) ∧
    ∃ r b, Servable (after e).registry.store e.notice c r b ∧
      ¬ IndexedWith rested.agent c r b ∧ IndexedWith (handled e).1.2 c r b := by
  intro e c
  have heval : ((after e).registry.store.get? .tlsBinding (binding []).key).map (fun r ↦
        (r.kind, r.key, r.tlsBinding)) =
        some (.tlsBinding, (binding []).key, .ok ⟨"cert", ["b.com"]⟩) ∧
      (renewed pem "new").secretData = .ok (renewal pem "new") ∧
      e.notice.retries ≤ rested.maxRetries ∧ c.sniSet = .ok ["a.com"] ∧
      entryOf rested.agent (binding []).key ≠
        some ⟨c.pin ["b.com"], .ofList (["b.com"].filterMap Sni.normalize?)⟩ := by
    decide +kernel
  obtain ⟨hbinding, hdata, hmost, hnames, hold⟩ := heval
  obtain ⟨r, hr, hkey⟩ := exists_servable (by decide +kernel) hbinding
  have hst := placed_after (proper_renewed pem "new")
  have hget : (after e).registry.store.get? .secret e.notice.key = some (renewed pem "new") :=
    get?_renewed pem "new"
  have hrotated := rotated_iff (serves_after e) rfl hget hdata hst rested.maxRetries rested.agent
  have hnew := hrotated.2 (.inl ⟨hmost, _, hnames⟩) r _ hr
  rw [← handled_eq] at hnew
  rw [← hkey] at hold
  exact ⟨⟨serves_after e, hst, rfl, hget, hdata⟩, r, _, hr, hold, hnew⟩

/-- The secret gets a certificate that cannot be read, and another key. The handling of its notice
ends there, and the binding keeps the old material, although its own notice would have had it
indexed with the new one. -/
theorem broken_certificate_stops_rotation :
    let e : Edit := .put (renewed "not a pem" "new")
    let c := Certificate.ofSecret (renewal "not a pem" "new")
    (StartsEmpty start ∧ start.Run laxRules rested ∧
      (after e).Serves (after e).registry.store ∧
      (after e).registry.store.get? .secret e.notice.key = some (renewed "not a pem" "new") ∧
      (renewed "not a pem" "new").secretData = .ok (renewal "not a pem" "new")) ∧
    ∃ r b, Servable (after e).registry.store e.notice c r b ∧
      entryOf (handled e).1.2 r.key = entryOf rested.agent r.key ∧
      ¬ IndexedWith (handled e).1.2 c r b ∧
      IndexedWith (handledOnce 3 (binding []).notice (handled e).1.2 (handled e).2).1.2 c r b := by
  intro e c
  have heval : ((after e).registry.store.get? .tlsBinding (binding []).key).map (fun r ↦
        (r.kind, r.key, r.tlsBinding)) =
        some (.tlsBinding, (binding []).key, .ok ⟨"cert", ["b.com"]⟩) ∧
      (renewed "not a pem" "new").secretData = .ok (renewal "not a pem" "new") ∧
      entryOf (handled e).1.2 (binding []).key = entryOf rested.agent (binding []).key ∧
      entryOf (handled e).1.2 (binding []).key ≠
        some ⟨c.pin ["b.com"], .ofList (["b.com"].filterMap Sni.normalize?)⟩ ∧
      entryOf (handledOnce 3 (binding []).notice (handled e).1.2 (handled e).2).1.2
          (binding []).key =
        some ⟨c.pin ["b.com"], .ofList (["b.com"].filterMap Sni.normalize?)⟩ := by
    decide +kernel
  obtain ⟨hbinding, hdata, hkept, hold, hagain⟩ := heval
  obtain ⟨hstart, hrun, -⟩ := rests
  obtain ⟨r, hr, hkey⟩ := exists_servable (by decide +kernel) hbinding
  rw [← hkey] at hkept hold hagain
  exact ⟨⟨hstart, hrun, serves_after e, get?_renewed "not a pem" "new", hdata⟩,
    r, _, hr, hkept, hold, hagain⟩

end Indexing

end StageRelay
