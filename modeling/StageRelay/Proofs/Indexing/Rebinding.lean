import StageRelay.Proofs.Indexing.Edits
import StageRelay.Proofs.Indexing.Plans

/-!
# Bindings that have lost their certificate

A binding has no certificate if it is gone, if its secret is gone, or if none of its names is a
server name; then its entry is withdrawn. The stage waits for it if an object was gone, but not if
the names were bad. A binding that declares no names at all is left alone, whatever is indexed for
it.
-/

namespace StageRelay

/-- A certificate that is pinned to names which are none is rejected. -/
theorem Certificate.rejected_pin {c : Certificate} {snis : List String}
    (h : ∀ sni ∈ snis, Sni.normalize? sni = none) : (c.pin snis).Rejected := by
  have hnone : snis.filterMap Sni.normalize? = [] := List.filterMap_eq_nil_iff.2 h
  refine .inr ?_
  show Except.ok (NameSet.ofList ([] ++ snis.filterMap Sni.normalize?)) = .ok []
  rw [hnone]
  rfl

namespace Indexing

variable {st : Store} {n : Notice} {key : ResourceKey}

/-- A binding that declares no names. -/
def Nameless (st : Store) (key : ResourceKey) : Prop :=
  ∃ r b, st.get? .tlsBinding key = some r ∧ r.tlsBinding = .ok b ∧ b.snis = []

/-- A binding that is gone, or declares names and refers to a secret that is gone. -/
def Bereft (st : Store) (key : ResourceKey) : Prop :=
  st.get? .tlsBinding key = none ∨ ∃ r b, st.get? .tlsBinding key = some r ∧
    r.tlsBinding = .ok b ∧ b.snis ≠ [] ∧ st.get? .secret ⟨key.stage, b.secretRef⟩ = none

/-- A binding of a stored secret that declares names, none of which is a server name. -/
def Misnamed (st : Store) (key : ResourceKey) : Prop :=
  ∃ r b secret, st.get? .tlsBinding key = some r ∧ r.tlsBinding = .ok b ∧ b.snis ≠ [] ∧
    (∀ sni ∈ b.snis, Sni.normalize? sni = none) ∧
    st.get? .secret ⟨key.stage, b.secretRef⟩ = some secret

theorem plan_of_nameless (h : Nameless st key) :
    (Subject.binding key.identity).plan st = .ok .leave := by
  obtain ⟨r, b, hr, hb, hsnis⟩ := h
  simp [Subject.plan, hr, hb, hsnis]

theorem plan_of_bereft (h : Bereft st key) :
    (Subject.binding key.identity).plan st = .ok .withdraw := by
  rcases h with hr | ⟨r, b, hr, hb, hsnis, hs⟩
  · simp [Subject.plan, hr]
  · simp [Subject.plan, hr, hb, hsnis, get?_owner, hs]

/-- What is planned for a binding with bad names, if anything can be, is to store a certificate that
is rejected. -/
theorem plan_of_misnamed (h : Misnamed st key) {p : Plan}
    (hp : (Subject.binding key.identity).plan st = .ok p) : ∃ c, p = .store c ∧ c.Rejected := by
  obtain ⟨r, b, secret, hr, hb, hsnis, hnames, hs⟩ := h
  cases hdata : secret.secretData with
  | error f => simp [Subject.plan, hr, hb, hsnis, get?_owner, hs, Subject.planOf, hdata] at hp
  | ok data =>
    have hstoring : Plan.storing ((Certificate.ofSecret data).pin b.snis) = .ok p := by
      simpa [Subject.plan, hr, hb, hsnis, get?_owner, hs, Subject.planOf, hdata] using hp
    exact ⟨_, Plan.eq_store_of_storing hstoring, Certificate.rejected_pin hnames⟩

/-- A secret that a bereft binding refers to is to be withdrawn as well. -/
theorem plan_secret_of_bereft (hst : st.Placed) {r : Resource}
    (hr : r ∈ st.list .tlsBinding n.stage) (hrefers : Agent.refersTo n.name r)
    (hkey : Bereft st r.key) : (Subject.secret n.key.identity).plan st = .ok .withdraw := by
  have hget := get?_of_mem_list hst hr
  rcases hkey with hnone | ⟨r', b, hr', hb, -, hs⟩
  · cases hget.symm.trans hnone
  · obtain rfl := Option.some.inj (hget.symm.trans hr')
    have hname : b.secretRef = n.name := by simpa [Agent.refersTo, hb] using hrefers
    have hs : st.get? .secret n.key = none := by
      rw [← hs, hname]
      exact Store.get?_of_same (Stage.same_comm.1 (Store.mem_list.1 hr).2.2) .secret n.name
    simp [Subject.plan, hs]

section Indexed

variable {a₀ a : AgentState} {s₀ s : Services}
  (h : IndexedAll st n.stage (subjectsOf st n) a₀ s₀ a s)
include h

theorem entryOf_of_nameless (hkey : Nameless st key)
    (hmark : n.kind = .secret → n.name ≠ ResourceKey.bindingMark ++ key.name) :
    entryOf a key = entryOf a₀ key := by
  rw [← lookup?_place, ← lookup?_place]
  refine h.lookup?_of_leave fun u hu hplace ↦ ?_
  unfold subjectsOf at hu
  split at hu
  · next hkind =>
    rcases List.mem_cons.1 hu with rfl | hu
    · -- Only a secret with the name that was made up for the binding has its place.
      exact absurd (congrArg Identity.name hplace) (hmark hkind)
    · rw [eq_of_mem_bindingsOf hu hplace, plan_of_nameless hkey]
  · obtain rfl := List.mem_singleton.1 hu
    rw [binding_place_inj hplace, plan_of_nameless hkey]

/-- The notice of a binding for which no change is told does not make the stage wait. -/
theorem debouncer_eq_of_binding (hkind : n.kind = .tlsBinding)
    (hkey : ∀ p, (Subject.binding n.key.identity).plan st = .ok p → ∀ v, ¬ p.Tells v) :
    s.debouncer = s₀.debouncer := by
  refine congrArg Services.debouncer (h.services_eq fun u hu ↦ ?_)
  rw [subjectsOf, if_neg (by simp [hkind])] at hu
  obtain rfl := List.mem_singleton.1 hu
  exact hkey

variable (hn : Reaches st n key)
include hn

theorem entryOf_of_bereft (hst : st.Placed) (hkey : Bereft st key) :
    entryOf a key = none ∧ (entryOf a₀ key ≠ none → n.stage ∈ s.debouncer.stages) := by
  have hplan : ∀ u ∈ subjectsOf st n, u.place = (Subject.binding key.identity).place →
      u.plan st = .ok .withdraw := by
    intro u hu hplace
    unfold subjectsOf at hu
    rcases hn with ⟨hkind, rfl⟩ | ⟨hkind, r, hr, hrefers, rfl⟩
    · rw [if_neg (by simp [hkind])] at hu
      obtain rfl := List.mem_singleton.1 hu
      exact plan_of_bereft hkey
    · rw [if_pos hkind] at hu
      rcases List.mem_cons.1 hu with rfl | hu
      · exact plan_secret_of_bereft hst hr hrefers hkey
      · rw [eq_of_mem_bindingsOf hu hplace, plan_of_bereft hkey]
  have hmem : ∃ u ∈ subjectsOf st n, u.place = (Subject.binding key.identity).place :=
    ⟨_, hn.mem_subjectsOf, rfl⟩
  rw [← lookup?_place, ← lookup?_place]
  refine ⟨h.lookup?_of_plan (fun u hu hplace ↦ ?_) (.inr hmem), h.waits_of_withdraw hplan hmem⟩
  exact ⟨.withdraw, hplan u hu hplace, fun _ ↦ rfl⟩

end Indexed

/-- Once a notice that gets to a binding was handled without an error, a binding that declares no
names has the entry that it had, and its own notice makes no stage wait. The entry of a binding that
is gone, or whose secret is gone, is withdrawn, and the stage waits if there was one. It is
withdrawn as well if the names of the binding are no server names, but the notice of the binding
does not make the stage wait then. -/
theorem rebound {most : UInt32} {a : AgentState} {s : Services} (hst : s.registry.store.Placed)
    (hmost : n.retries ≤ most) (hn : Reaches s.registry.store n key) (h : Succeeds most n a s) :
    let a' := (handledOnce most n a s).1.2
    let s' := (handledOnce most n a s).2
    (Nameless s.registry.store key →
      ((n.kind = .secret → n.name ≠ ResourceKey.bindingMark ++ key.name) →
        entryOf a' key = entryOf a key) ∧
      (n.kind = .tlsBinding → s'.debouncer = s.debouncer)) ∧
    (Bereft s.registry.store key →
      entryOf a' key = none ∧ (entryOf a key ≠ none → n.stage ∈ s'.debouncer.stages)) ∧
    (Misnamed s.registry.store key →
      entryOf a' key = none ∧ (n.kind = .tlsBinding → s'.debouncer = s.debouncer)) := by
  intro a' s'
  have hall := indexedAll_handledOnce hn.ofCertificate hmost h
  have hown (hkind : n.kind = .tlsBinding) : n.key = key := by
    rcases hn with ⟨-, hkey⟩ | ⟨hsecret, -⟩
    · exact hkey
    · cases hkind.symm.trans hsecret
  refine ⟨fun hkey ↦ ⟨entryOf_of_nameless hall hkey, fun hkind ↦ ?_⟩,
    entryOf_of_bereft hall hn hst, fun hkey ↦ ⟨?_, fun hkind ↦ ?_⟩⟩
  · show s'.debouncer = (received n s).debouncer
    refine debouncer_eq_of_binding hall hkind fun p hp v ↦ ?_
    obtain rfl := Except.ok.inj (hp.symm.trans (plan_of_nameless (hown hkind ▸ hkey)))
    exact id
  · obtain ⟨p, hp⟩ := hall.exists_plan hn.mem_subjectsOf
    obtain ⟨c, rfl, hrejected⟩ := plan_of_misnamed hkey hp
    exact entryOf_of_plan hall hn hp fun _ ↦ hrejected.tracked?
  · show s'.debouncer = (received n s).debouncer
    refine debouncer_eq_of_binding hall hkind fun p hp v ↦ ?_
    obtain ⟨c, rfl, hrejected⟩ := plan_of_misnamed (hown hkind ▸ hkey) hp
    exact fun htells ↦ htells.1 hrejected

open Sample

/-- What is stored after one more change to what was handled. -/
theorem placed_of_run {x y : System} {e : Edit} (hx : StartsEmpty x) (hrun : x.Run laxRules y)
    (hnone : HandlesNone y.activity) (he : ProperNotice e.notice) :
    (e.apply y.services.registry).store.Placed := by
  have hkeyed : y.services.registry.store.Keyed :=
    ((hx.invariant.run noting_laxRules hrun).holds hnone).world.keyed
  exact (Edit.keyed_apply hkeyed he.plain).placed

theorem placed_after {e : Edit} (he : ProperNotice e.notice) : (after e).registry.store.Placed := by
  obtain ⟨hstart, hrun, hnone, -⟩ := rests
  exact placed_of_run hstart hrun hnone he

theorem handled_eq (e : Edit) :
    handled e = handledOnce rested.maxRetries e.notice rested.agent (after e) := rfl

/-- A binding that is looked up after a change is listed. -/
theorem exists_listed {e : Edit} (he : ProperNotice e.notice) {b : TlsBinding}
    (h : ((after e).registry.store.get? .tlsBinding (binding []).key).map (fun r ↦
      (r.kind, r.key, r.tlsBinding)) = some (.tlsBinding, (binding []).key, .ok b)) :
    ∃ r ∈ (after e).registry.store.list .tlsBinding stage,
      r.key = (binding []).key ∧ r.tlsBinding = .ok b := by
  obtain ⟨r, hget, hr⟩ := Option.map_eq_some_iff.1 h
  obtain ⟨hkind, hr⟩ := Prod.mk.inj hr
  obtain ⟨hkey, hb⟩ := Prod.mk.inj hr
  have hstage : r.stage = stage := congrArg ResourceKey.stage hkey
  refine ⟨r, Store.mem_list.2 ⟨?_, hkind, hstage ▸ Stage.same_refl stage⟩, hkey, hb⟩
  exact (placed_after he).mem_resources_iff.2 (by rw [hkind, hkey, hget])

/-- The secret of a binding is removed. The notice of that gets to the binding: its entry is
withdrawn, and the stage waits. -/
theorem rebound_without_secret :
    let e : Edit := .remove .secret secret.key
    let key := (binding []).key
    ((after e).registry.store.Placed ∧ e.notice.retries ≤ rested.maxRetries ∧
      Reaches (after e).registry.store e.notice key ∧
      Succeeds rested.maxRetries e.notice rested.agent (after e) ∧
      Bereft (after e).registry.store key) ∧
    entryOf rested.agent key ≠ none ∧ entryOf (handled e).1.2 key = none ∧
      stage ∈ (handled e).2.debouncer.stages := by
  intro e key
  have heval : ((after e).registry.store.get? .tlsBinding key).map (fun r ↦
        (r.kind, r.key, r.tlsBinding)) = some (.tlsBinding, key, .ok ⟨"cert", ["b.com"]⟩) ∧
      ((after e).registry.store.get? .secret ⟨stage, "cert"⟩).isNone ∧
      (entryOf rested.agent key).isSome ∧ e.notice.retries ≤ rested.maxRetries ∧
      (tried rested.maxRetries e.notice rested.agent (after e)).1.1 = .ok [] := by
    decide +kernel
  obtain ⟨hbinding, hsecret, hentry, hmost, hok⟩ := heval
  have he : ProperNotice e.notice :=
    ⟨show stage.Plain by decide, fun _ ↦ proper_secret.unmarked rfl⟩
  have hst : (after e).registry.store.Placed := placed_after he
  obtain ⟨r, hr, hkey, hb⟩ := exists_listed he hbinding
  have hrefers : Agent.refersTo "cert" r := by simp [Agent.refersTo, hb]
  have hreaches : Reaches (after e).registry.store e.notice key :=
    .inr ⟨rfl, r, hr, hrefers, hkey⟩
  have hget := get?_of_mem_list hst hr
  rw [hkey] at hget
  have hbereft : Bereft (after e).registry.store key :=
    .inr ⟨r, _, hget, hb, List.cons_ne_nil _ _, Option.isNone_iff_eq_none.1 hsecret⟩
  have hentry : entryOf rested.agent key ≠ none := Option.isSome_iff_ne_none.1 hentry
  have hsucceeds : Succeeds rested.maxRetries e.notice rested.agent (after e) :=
    succeeds_iff.2 ⟨[], hok⟩
  obtain ⟨-, hwithdrawn, -⟩ := rebound hst hmost hreaches hsucceeds
  obtain ⟨hnone, hwaits⟩ := hwithdrawn hbereft
  rw [handled_eq]
  exact ⟨⟨hst, hmost, hreaches, hsucceeds, hbereft⟩, hentry, hnone, hwaits hentry⟩

/-- What is stored for the binding after it was put with some names. -/
theorem get?_after (snis : List String) :
    (after (.put (binding snis))).registry.store.get? .tlsBinding (binding []).key =
      some (binding snis) :=
  Store.get?_put.trans (if_pos rfl)

/-- A binding with an entry loses its names, and keeps the entry. If its name is replaced by one
that is no server name, the entry is withdrawn. In both cases nothing waits. -/
theorem nameless_binding_keeps_entry :
    let key := (binding []).key
    (StartsEmpty start ∧ start.Run laxRules rested ∧ entryOf rested.agent key ≠ none ∧
      rested.services.debouncer.stages = []) ∧
    (Succeeds rested.maxRetries (binding []).notice rested.agent (after (.put (binding []))) ∧
      Nameless (after (.put (binding []))).registry.store key ∧
      entryOf (handled (.put (binding []))).1.2 key ≠ none ∧
      (handled (.put (binding []))).2.debouncer.stages = []) ∧
    Succeeds rested.maxRetries (binding ["-"]).notice rested.agent (after (.put (binding ["-"]))) ∧
      Misnamed (after (.put (binding ["-"]))).registry.store key ∧
      entryOf (handled (.put (binding ["-"]))).1.2 key = none ∧
      (handled (.put (binding ["-"]))).2.debouncer.stages = [] := by
  intro key
  have heval : (entryOf rested.agent key).isSome ∧
      ((tried rested.maxRetries (binding []).notice rested.agent
          (after (.put (binding [])))).1.1 = .ok [] ∧
        (binding []).tlsBinding = .ok ⟨"cert", []⟩ ∧
        (entryOf (handled (.put (binding []))).1.2 key).isSome ∧
        (handled (.put (binding []))).2.debouncer.stages = []) ∧
      (tried rested.maxRetries (binding ["-"]).notice rested.agent
          (after (.put (binding ["-"])))).1.1 = .ok [] ∧
        (binding ["-"]).tlsBinding = .ok ⟨"cert", ["-"]⟩ ∧
        ((after (.put (binding ["-"]))).registry.store.get? .secret ⟨stage, "cert"⟩).isSome ∧
        entryOf (handled (.put (binding ["-"]))).1.2 key = none ∧
        (handled (.put (binding ["-"]))).2.debouncer.stages = [] := by
    decide +kernel
  obtain ⟨hentry, ⟨hok, hb, hkept, hstages⟩, hok', hb', hsecret, hgone, hstages'⟩ := heval
  obtain ⟨hstart, hrun, -, -, -, -, hrested⟩ := rests
  obtain ⟨secret, hsecret⟩ := Option.isSome_iff_exists.1 hsecret
  have hnameless : Nameless (after (.put (binding []))).registry.store key :=
    ⟨_, _, get?_after [], hb, rfl⟩
  have hmisnamed : Misnamed (after (.put (binding ["-"]))).registry.store key :=
    ⟨_, _, secret, get?_after ["-"], hb', List.cons_ne_nil _ _, by decide +kernel, hsecret⟩
  exact ⟨⟨hstart, hrun, Option.isSome_iff_ne_none.1 hentry, hrested⟩,
    ⟨succeeds_iff.2 ⟨[], hok⟩, hnameless, Option.isSome_iff_ne_none.1 hkept, hstages⟩,
    succeeds_iff.2 ⟨[], hok'⟩, hmisnamed, hgone, hstages'⟩

end Indexing

end StageRelay
