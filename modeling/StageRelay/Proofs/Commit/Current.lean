import StageRelay.Commit.Basic
import StageRelay.Proofs.Indexing.Documents
import StageRelay.Proofs.Registry.Stored
import StageRelay.Proofs.Work.Alone

/-!
# What a commit publishes

A commit publishes what is stored for its stage at the time, and nothing else: every object of the
stage has one entry in the configuration, or the commit fails at the first TLS binding whose
certificate cannot be told. What is stored for other stages does not matter.
-/

namespace StageRelay

/-! ## Objects of a stage -/

namespace Store

variable {st : Store} {kind : Kind} {s : Stage} {r : Resource}

/-- The resources of a kind that are stored for a stage. -/
def objects (st : Store) (kind : Kind) (s : Stage) : List Resource :=
  st.resources.filter fun r ↦ r.kind = kind && r.stage.same s

theorem perm_objects (st : Store) (kind : Kind) (s : Stage) :
    (st.list kind s).Perm (st.objects kind s) :=
  List.mergeSort_perm _ _

theorem mem_objects : r ∈ st.objects kind s ↔ r ∈ st.list kind s :=
  (st.perm_objects kind s).mem_iff.symm

end Store

/-! ## Sections of a configuration -/

namespace Dict

variable {α : Type u} {d : Dict α} {es es' : List (String × α)}

/-- Whether a dictionary has exactly the given entries, each under a key of its own. -/
def Holds (d : Dict α) (es : List (String × α)) : Prop :=
  d.Sorted ∧ d.Perm es

theorem Holds.perm (h : d.Holds es) (hp : es.Perm es') : d.Holds es' :=
  ⟨h.1, h.2.trans hp⟩

theorem holds_ofEntries (h : (es.map Prod.fst).Nodup) : (ofEntries es).Holds es := by
  have hunique (k : String) (a b : α) (ha : (k, a) ∈ es) (hb : (k, b) ∈ es) : a = b :=
    (Prod.mk.inj (List.inj_on_of_nodup_map h ha hb rfl)).2
  have hsorted := sorted_ofEntries es
  have hnodup : (ofEntries es).Nodup := by
    refine hsorted.imp ?_
    rintro e f hlt rfl
    exact String.lt_irrefl e.1 hlt
  refine ⟨hsorted, (List.perm_ext_iff_of_nodup hnodup h.of_map).2 ?_⟩
  rintro ⟨k, a⟩
  rw [← hsorted.find?_eq_some_iff, find?_ofEntries_eq_some_iff hunique]

end Dict

/-! ## What is to be published -/

/-- The content of a binding of a stage, and that of the secret of the stage that it points at. -/
def Legible (st : Store) (s : Stage) (r : Resource) (b : TlsBinding) (data : SecretData) : Prop :=
  r.tlsBinding = .ok b ∧
    ∃ secret ∈ st.objects .secret s, secret.name = b.secretRef ∧ secret.secretData = .ok data

/-- Why a binding of a stage cannot be published. -/
inductive Blames (st : Store) (s : Stage) (r : Resource) : ConvertError → Prop
  | binding {f : Fault} (hb : r.tlsBinding = .error f) :
    Blames st s r (.invalid .tlsBinding r.name f)
  | missing {b : TlsBinding} (hb : r.tlsBinding = .ok b)
    (hs : ∀ secret ∈ st.objects .secret s, secret.name ≠ b.secretRef) :
    Blames st s r (.missingSecret r.name b.secretRef)
  | secret {b : TlsBinding} {secret : Resource} {f : Fault} (hb : r.tlsBinding = .ok b)
    (hs : secret ∈ st.objects .secret s) (hname : secret.name = b.secretRef)
    (hf : secret.secretData = .error f) : Blames st s r (.invalid .secret b.secretRef f)

/-- The document of a binding with the texts of its secret. -/
def sslOf (b : TlsBinding) (data : SecretData) : Json :=
  .object [
    ("ca", .string (data.field "ca.crt")),
    ("cert", .string (data.field "tls.crt")),
    ("key", .string (data.field "tls.key")),
    ("snis", .array (b.snis.map .string))]

/-- A configuration that has exactly one entry for each object of a stage. -/
structure Describes (st : Store) (s : Stage) (c : Configuration) : Prop where
  gateway : c.gateway = s.gateway
  stage : c.stage = s.name
  routes : c.routes.Holds ((st.objects .route s).map fun r ↦
    (s.gateway ++ "." ++ s.name ++ "." ++ r.name, r.spec))
  services : c.services.Holds ((st.objects .service s).map fun r ↦
    (s.gateway ++ "." ++ s.name ++ "." ++ r.name, r.spec))
  pluginMetadata : c.pluginMetadata.Holds ((st.objects .pluginMetadata s).map fun r ↦
    (r.name, r.spec))
  ssls : ∃ document : Resource → Json,
    (∀ r ∈ st.objects .tlsBinding s, ∃ b data, Legible st s r b data ∧
      document r = sslOf b data) ∧
    c.ssls.Holds ((st.objects .tlsBinding s).map fun r ↦
      (s.gateway ++ "." ++ s.name ++ "." ++ r.name, document r))

section Conversion

variable {st : Store} {s : Stage} {r : Resource}

theorem blames_of_sslDocument (hr : r ∈ st.list .tlsBinding s) {e : ConvertError}
    (he : (st.content s).resources.sslDocument r = .error e) : Blames st s r e := by
  have hkind : r.kind = .tlsBinding := (Store.mem_list.1 hr).2.1
  have hsecrets : (st.content s).resources.secrets = st.list .secret s := rfl
  unfold StageResources.sslDocument at he
  rw [hsecrets] at he
  rcases Except.bind_eq_error_iff.1 he with hb | ⟨b, hb, he⟩
  · obtain ⟨f, hf, rfl⟩ := Except.mapError_eq_error_iff.1 hb
    exact hkind ▸ .binding hf
  have hb := Except.mapError_eq_ok_iff.1 hb
  split at he
  · next hfind =>
    obtain rfl := Except.error.inj he
    refine .missing hb fun secret hsecret ↦ ?_
    simpa using List.find?_eq_none.1 hfind secret (Store.mem_objects.1 hsecret)
  · next secret hfind =>
    have hsecret := List.mem_of_find?_eq_some hfind
    have hname : secret.name = b.secretRef := by simpa using List.find?_some hfind
    rcases Except.bind_eq_error_iff.1 he with hdata | ⟨data, -, he⟩
    · obtain ⟨f, hf, rfl⟩ := Except.mapError_eq_error_iff.1 hdata
      rw [(Store.mem_list.1 hsecret).2.1, hname]
      exact .secret hb (Store.mem_objects.2 hsecret) hname hf
    · cases he

variable (h : st.Keyed)
include h

/-- The entries of objects that are named after them can be told apart. -/
theorem holds_entries {name : Resource → String} {kind : Kind} {document : Resource → Json}
    (hname : ∀ r r', name r = name r' → r.name = r'.name) :
    (Dict.ofEntries ((st.list kind s).map fun r ↦ (name r, document r))).Holds
      ((st.objects kind s).map fun r ↦ (name r, document r)) := by
  refine (Dict.holds_ofEntries ?_).perm ((st.perm_objects kind s).map _)
  rw [List.map_map]
  refine List.pairwise_map.2 ((h.placed.list_pairwise kind s).imp ?_)
  intro r r' hlt heq
  exact String.lt_irrefl r.name (hname r r' heq ▸ hlt)

variable (hs : s.Plain)
include hs

theorem sslDocument_eq_ok_iff (hr : r ∈ st.list .tlsBinding s) {j : Json} :
    (st.content s).resources.sslDocument r = .ok j ↔
      ∃ b data, Legible st s r b data ∧ j = sslOf b data := by
  rw [Indexing.sslDocument_eq_ok_iff h hs hr]
  have hget : st.get? .tlsBinding (ResourceKey.mk s r.name).identity.key = some r :=
    h.get?_of_mem_list hr
  simp only [Indexing.bindingOf, Indexing.Subject.certificate?_binding, hget]
  constructor
  · rintro ⟨cert, ⟨_, b, secret, data, ⟨⟩, hb, hsecret, hdata, rfl⟩, rfl⟩
    have hsecret : st.get? .secret ⟨s, b.secretRef⟩ = some secret := hsecret
    obtain ⟨hmem, hname⟩ := h.mem_list_of_get? hs hsecret
    exact ⟨b, data, ⟨hb, secret, Store.mem_objects.2 hmem, hname, hdata⟩, rfl⟩
  · rintro ⟨b, data, ⟨hb, secret, hmem, hname, hdata⟩, rfl⟩
    have hsecret := h.get?_of_mem_list (Store.mem_objects.1 hmem)
    exact ⟨_, ⟨r, b, secret, data, rfl, hb, hname ▸ hsecret, hdata, rfl⟩, rfl⟩

/-- If every binding can be published, there is a configuration, and it has an entry for each
object. -/
theorem convert_describes
    (hl : ∀ r ∈ st.objects .tlsBinding s, ∃ b data, Legible st s r b data) :
    ∃ c, (st.content s).resources.convert s = .ok c ∧ Describes st s c := by
  have hqualified (r r' : Resource)
      (heq : StageResources.documentName s r = StageResources.documentName s r') :
      r.name = r'.name := Indexing.bindingName_inj heq
  let document (r : Resource) : Json :=
    ((st.content s).resources.sslDocument r).toOption.getD .null
  have hdocument {r : Resource} (hr : r ∈ st.list .tlsBinding s) : ∃ b data,
      Legible st s r b data ∧ (st.content s).resources.sslDocument r = .ok (sslOf b data) ∧
        document r = sslOf b data := by
    obtain ⟨b, data, hb⟩ := hl r (Store.mem_objects.2 hr)
    have hok := (sslDocument_eq_ok_iff h hs hr).2 ⟨b, data, hb, rfl⟩
    refine ⟨b, data, hb, hok, ?_⟩
    simp only [document, hok, Except.toOption, Option.getD_some]
  have hssls : (st.content s).resources.tlsBindings.mapM (fun r ↦ do
        return (StageResources.documentName s r, ← (st.content s).resources.sslDocument r)) =
      (.ok ((st.list .tlsBinding s).map fun r ↦ (StageResources.documentName s r, document r)) :
        Except ConvertError _) := by
    refine Except.mapM_eq_ok fun r hr ↦ ?_
    obtain ⟨b, data, -, hok, hdoc⟩ := hdocument hr
    rw [hok, hdoc]
    rfl
  refine ⟨_, Except.bind_eq_ok_iff.2 ⟨_, hssls, rfl⟩, ?_⟩
  refine ⟨rfl, rfl, holds_entries h hqualified, holds_entries h hqualified,
    holds_entries h fun _ _ ↦ id, document, fun r hr ↦ ?_, holds_entries h hqualified⟩
  obtain ⟨b, data, hb, -, hdoc⟩ := hdocument (Store.mem_objects.1 hr)
  exact ⟨b, data, hb, hdoc⟩

/-- If some binding cannot be published, the first of them in the order of names is to blame. -/
theorem convert_blames
    (hl : ∃ r ∈ st.objects .tlsBinding s, ¬ ∃ b data, Legible st s r b data) :
    ∃ r ∈ st.objects .tlsBinding s, ∃ e, Blames st s r e ∧
      (∀ r' ∈ st.objects .tlsBinding s, (¬ ∃ b data, Legible st s r' b data) →
        r.name ≤ r'.name) ∧
      (st.content s).resources.convert s = .error e := by
  have hentry {r : Resource} {k : String} {j : Json} (hr : r ∈ st.list .tlsBinding s)
      (he : (do return (StageResources.documentName s r,
        ← (st.content s).resources.sslDocument r) : Except ConvertError (String × Json)) =
          .ok (k, j)) : ∃ b data, Legible st s r b data := by
    obtain ⟨j', hj, -⟩ := Except.bind_eq_ok_iff.1 he
    obtain ⟨b, data, hb, -⟩ := (sslDocument_eq_ok_iff h hs hr).1 hj
    exact ⟨b, data, hb⟩
  obtain ⟨r₀, hr₀, hnot⟩ := hl
  have hfails : ∃ r ∈ (st.content s).resources.tlsBindings, ∀ entry : String × Json,
      (do return (StageResources.documentName s r, ← (st.content s).resources.sslDocument r) :
        Except ConvertError (String × Json)) ≠ .ok entry :=
    ⟨r₀, Store.mem_objects.1 hr₀, fun ⟨k, j⟩ hok ↦ hnot (hentry (Store.mem_objects.1 hr₀) hok)⟩
  obtain ⟨before, r, after, e, hlist, hbefore, he, hmap⟩ := Except.exists_mapM_eq_error hfails
  have hlist : st.list .tlsBinding s = before ++ r :: after := hlist
  have hr : r ∈ st.list .tlsBinding s := by simp [hlist]
  refine ⟨r, Store.mem_objects.2 hr, e, ?_, ?_, ?_⟩
  · rcases Except.bind_eq_error_iff.1 he with hdoc | ⟨j, -, hok⟩
    · exact blames_of_sslDocument hr hdoc
    · cases hok
  · -- The bindings are published in the order of their names.
    intro r' hr' hfails
    have hordered := h.placed.list_pairwise .tlsBinding s
    rw [hlist] at hordered
    have hr' : r' ∈ before ++ r :: after := hlist ▸ Store.mem_objects.1 hr'
    rcases List.mem_append.1 hr' with hr' | hr'
    · obtain ⟨⟨k, j⟩, hok⟩ := hbefore r' hr'
      exact absurd (hentry (by simp [hlist, hr']) hok) hfails
    · rcases List.mem_cons.1 hr' with rfl | hr'
      · exact String.le_refl _
      · have hafter := (List.pairwise_append.1 hordered).2.1
        exact Std.le_of_lt ((List.pairwise_cons.1 hafter).1 r' hr')
  · rw [StageResources.convert, hmap]
    rfl

end Conversion

/-! ## Requests about other stages -/

namespace Registry

variable {reg : Registry} {s : Stage}

/-- Whether a request does not change what is stored for a stage, as it is about another one. -/
def Request.Elsewhere (s : Stage) : Request → Prop
  | .put r => r.stage.Plain ∧ ¬ r.stage.same s
  | .remove _ key => key.stage.Plain ∧ ¬ key.stage.same s
  | _ => True

theorem content_serve {q : Request} (h : reg.store.Keyed) (hs : s.Plain)
    (hq : q.Elsewhere s) :
    (reg.serve q).2.store.Keyed ∧ (reg.serve q).2.store.content s = reg.store.content s := by
  cases q with
  | put r => exact ⟨h.put hq.1, h.content_put hq.1 hs hq.2⟩
  | remove kind key =>
    show (reg.remove kind key).2.store.Keyed ∧ (reg.remove kind key).2.store.content s = _
    unfold remove
    cases reg.store.get? kind key with
    | none => exact ⟨h, rfl⟩
    | some old => exact ⟨h.remove kind key, h.content_remove hq.1 hs hq.2⟩
  | receive i =>
    simp only [serve]
    split <;> exact ⟨h, rfl⟩
  | _ => exact ⟨h, rfl⟩

theorem content_serves {qs : List Request} (h : reg.store.Keyed)
    (hs : s.Plain) (hqs : ∀ q ∈ qs, q.Elsewhere s) :
    (qs.foldl (fun reg q ↦ (reg.serve q).2) reg).store.content s = reg.store.content s := by
  induction qs generalizing reg with
  | nil => rfl
  | cons q qs ih =>
    obtain ⟨hq, hqs⟩ := List.forall_mem_cons.1 hqs
    obtain ⟨hkeyed, hcontent⟩ := content_serve h hs hq
    exact (ih hkeyed hqs).trans hcontent

end Registry

/-- The services after requests to their registry. -/
def Services.served (services : Services) (qs : List Registry.Request) : Services :=
  { services with registry := qs.foldl (fun reg q ↦ (reg.serve q).2) services.registry }

/-! ## Commits -/

/-- Services of which everything works that a commit of a stage calls on. -/
structure Services.Commits (services : Services) (s : Stage) : Prop where
  object : ¬ Faults.covers services.faults.get .stage
  lists : ∀ kind ∈ Kind.stageScoped, ¬ Faults.covers services.faults.list kind
  converts : s.key ∉ services.crashing
  accepts : services.accept s.gateway s.name = .ok ()

namespace Commit

variable {services : Services} {s : Stage}

/-- How the configuration of a stage that is built fails, if it does. -/
def failureOf (κ : Content) (s : Stage) : CommitFailure → Prop
  | .error (.stageNotFound _) => κ.object? = none
  | .error (.convert e) => κ.configuration s = .error e
  | _ => False

theorem resourcesOf_alone {kinds : List Kind}
    (hl : ∀ kind ∈ kinds, ¬ Faults.covers services.faults.list kind) (all : StageResources) :
    Job.wpe Services.alone
      (kinds.foldlM (fun all kind ↦ do
        match ← attempt (.list kind s) with
        | .ok listed => return all.extend kind listed
        | .error e => throw (.error (.registry e))) all)
      (fun rs services' ↦ services' = services ∧
        rs = kinds.foldl (fun all kind ↦ all.extend kind (services.registry.store.list kind s)) all)
      (fun _ _ ↦ False) services := by
  induction kinds generalizing all with
  | nil => exact ⟨rfl, rfl⟩
  | cons kind kinds ih =>
    obtain ⟨hkind, hkinds⟩ := List.forall_mem_cons.1 hl
    have hlist : services.answer (.list kind s) =
        (.ok (services.registry.store.list kind s), services) :=
      Prod.ext (if_neg hkind) rfl
    rw [List.foldlM_cons, Job.wpe_bind, Job.wpe_bind, attempt, Job.wpe_lift, Job.wp_ask]
    simp only [Services.alone, hlist, Job.wpe_pure]
    exact ih hkinds _

theorem build_alone (h : services.Commits s) :
    Job.wpe Services.alone (build s)
      (fun c services' ↦ services' = services ∧
        services.registry.store.configuration s = .ok c)
      (fun e services' ↦ services' = services ∧
        failureOf (services.registry.store.content s) s e) services := by
  have hget : services.answer (.get .stage ⟨s, s.name⟩) =
      (services.registry.get .stage ⟨s, s.name⟩, services) :=
    Prod.ext (if_neg h.object) rfl
  rw [build, Job.wpe_bind, attempt, Job.wpe_lift, Job.wp_ask]
  simp only [Services.alone, hget, Registry.get]
  cases hobject : services.registry.store.get? .stage ⟨s, s.name⟩ with
  | none => exact ⟨rfl, hobject⟩
  | some r =>
    simp only [Job.wpe_bind]
    refine Job.wpe_mono ?_ (fun _ _ ↦ False.elim) (resourcesOf_alone h.lists {})
    rintro rs services ⟨rfl, hrs⟩
    have hrs : rs = (services.registry.store.content s).resources := hrs
    have hconfiguration : services.registry.store.configuration s = rs.convert s := by
      simp only [hrs, Store.configuration, Content.configuration, Store.content, hobject]
    have hconverts : ¬ services.crashing.contains s.key := by simpa using h.converts
    rw [attempt, Job.wpe_lift, Job.wp_ask]
    cases hc : rs.convert s with
    | ok c =>
      have hanswer : services.answer (.convert s rs) = (.configuration c, services) := by
        rw [Services.answer, Services.convert, if_neg hconverts, hc]
      simp only [hanswer]
      exact ⟨rfl, hconfiguration.trans hc⟩
    | error e =>
      have hanswer : services.answer (.convert s rs) = (.refused e, services) := by
        rw [Services.answer, Services.convert, if_neg hconverts, hc]
      simp only [hanswer]
      exact ⟨rfl, hconfiguration.trans hc⟩

theorem toPublish_alone (h : services.Commits s) :
    (toPublish s).wp Services.alone (fun r services' ↦ services' = services ∧
      match services.registry.store.configuration s with
      | .ok c => ∃ outcome, r = .ok (c, outcome)
      | .error e => r = .error (.error (.convert e))) services := by
  rw [toPublish, Job.bind_eq, Job.wp_bind]
  refine Job.wp_mono ?_ (build_alone h)
  rintro r services' hr
  cases r with
  | ok c =>
    obtain ⟨rfl, hc⟩ := hr
    rw [hc]
    exact ⟨rfl, _, rfl⟩
  | error e =>
    obtain ⟨rfl, he⟩ := hr
    match e, he with
    | .error (.stageNotFound _), he =>
      -- A stage that is gone is published as an empty one.
      have hempty : services'.registry.store.configuration s = .ok (.empty s.gateway s.name) := by
        rw [Store.configuration, Content.configuration, he]
      rw [hempty]
      exact ⟨rfl, _, rfl⟩
    | .error (.convert e), he =>
      rw [Store.configuration, he]
      exact ⟨rfl, rfl⟩

/-- How a commit of a stage ends among services, and all that has been done by then. -/
def ends (services : Services) (s : Stage) : Except CommitFailure Unit × List (Nat × Deed) :=
  let (result, services') := (commitStage s).run Services.host services
  (result, services'.deeds)

theorem ends_eq (h : services.Commits s) :
    ends services s = match services.registry.store.configuration s with
      | .ok c => (.ok (), (services.now, .sync s.gateway s.name c) :: services.deeds)
      | .error e => (.error (.error (.convert e)), services.deeds) := by
  suffices hends : (commitStage s).wp Services.alone (fun r services' ↦ (r, services'.deeds) =
      match services.registry.store.configuration s with
      | .ok c => (.ok (), (services.now, .sync s.gateway s.name c) :: services.deeds)
      | .error e => (.error (.error (.convert e)), services.deeds)) services from
    Job.wp_alone.1 hends
  rw [commitStage, Job.bind_eq, Job.wp_bind]
  refine Job.wp_mono ?_ (toPublish_alone h)
  rintro r services ⟨rfl, hr⟩
  cases hc : services.registry.store.configuration s with
  | ok c =>
    rw [hc] at hr
    obtain ⟨outcome, rfl⟩ := hr
    have hsync : services.answer (.sync s.gateway s.name c) =
        (.ok (), services.log (.sync s.gateway s.name c)) := by
      simp only [Services.answer, h.accepts]
    simp only [Job.bind_eq, Job.wp_bind, Job.wp_ask, Services.alone, hsync]
    rfl
  | error e =>
    rw [hc] at hr
    obtain rfl := hr
    rfl

theorem ends_served {qs : List Registry.Request} (h : services.Commits s)
    (hst : services.registry.store.Keyed) (hs : s.Plain) (hqs : ∀ q ∈ qs, q.Elsewhere s) :
    ends (services.served qs) s = ends services s := by
  have h' : (services.served qs).Commits s := ⟨h.object, h.lists, h.converts, h.accepts⟩
  have hcontent : (services.served qs).registry.store.content s =
      services.registry.store.content s := Registry.content_serves hst hs hqs
  rw [ends_eq h, ends_eq h', Store.configuration, hcontent]
  rfl

/-! ## What is synced -/

/-- Whether there is an object of a stage, which is named like it. -/
def Founded (st : Store) (s : Stage) : Prop :=
  ∃ r ∈ st.objects .stage s, r.name = s.name

theorem founded_iff {st : Store} (h : st.Keyed) (hs : s.Plain) :
    Founded st s ↔ (st.content s).object? ≠ none := by
  constructor
  · rintro ⟨r, hr, hname⟩
    have hget := h.get?_of_mem_list (Store.mem_objects.1 hr)
    rw [hname] at hget
    rw [Store.content, hget]
    exact Option.some_ne_none r
  · intro hobject
    obtain ⟨r, hr⟩ := Option.ne_none_iff_exists'.1 hobject
    obtain ⟨hmem, hname⟩ := h.mem_list_of_get? hs hr
    exact ⟨r, Store.mem_objects.2 hmem, hname⟩

/-- A commit of a stage syncs the empty configuration if there is no object of the stage. Otherwise
it succeeds exactly if every binding of the stage can be published, and syncs a configuration that
has an entry for each object of the stage; or else it does nothing, and its error is that of the
first binding that cannot be published. Nothing that is stored for other stages matters. -/
theorem syncs_current_content (h : services.Commits s) (hst : services.registry.store.Keyed)
    (hs : s.Plain) :
    (¬ Founded services.registry.store s → ends services s =
      (.ok (), (services.now, .sync s.gateway s.name (.empty s.gateway s.name)) ::
        services.deeds)) ∧
    (Founded services.registry.store s →
      ((ends services s).1 = .ok () ↔ ∀ r ∈ services.registry.store.objects .tlsBinding s,
        ∃ b data, Legible services.registry.store s r b data) ∧
      ((ends services s).1 = .ok () → ∃ c, Describes services.registry.store s c ∧
        (ends services s).2 = (services.now, .sync s.gateway s.name c) :: services.deeds) ∧
      ((ends services s).1 ≠ .ok () → (ends services s).2 = services.deeds ∧
        ∃ r ∈ services.registry.store.objects .tlsBinding s, ∃ e,
          (ends services s).1 = .error (.error (.convert e)) ∧
          Blames services.registry.store s r e ∧
          ∀ r' ∈ services.registry.store.objects .tlsBinding s,
            (¬ ∃ b data, Legible services.registry.store s r' b data) → r.name ≤ r'.name)) ∧
    ∀ qs : List Registry.Request, (∀ q ∈ qs, q.Elsewhere s) →
      ends (services.served qs) s = ends services s := by
  have hends := ends_eq h
  refine ⟨fun hgone ↦ ?_, fun hfound ↦ ?_, fun qs hqs ↦ ends_served h hst hs hqs⟩
  · have hobject := Classical.not_not.1 (mt (founded_iff hst hs).2 hgone)
    rw [hends, Store.configuration, Content.configuration, hobject]
  · obtain ⟨object, hobject⟩ := Option.ne_none_iff_exists'.1 ((founded_iff hst hs).1 hfound)
    have hconfiguration : services.registry.store.configuration s =
        (services.registry.store.content s).resources.convert s := by
      rw [Store.configuration, Content.configuration, hobject]
    rw [hconfiguration] at hends
    by_cases hl : ∀ r ∈ services.registry.store.objects .tlsBinding s,
        ∃ b data, Legible services.registry.store s r b data
    · obtain ⟨c, hc, hdescribes⟩ := convert_describes hst hs hl
      rw [hc] at hends
      rw [hends]
      exact ⟨iff_of_true rfl hl, fun _ ↦ ⟨c, hdescribes, rfl⟩, fun hne ↦ absurd rfl hne⟩
    · obtain ⟨r, hr, e, hblames, hfirst, he⟩ := convert_blames hst hs (by simpa using hl)
      rw [he] at hends
      rw [hends]
      have hnot : (.error (.error (.convert e)) : Except CommitFailure Unit) ≠ .ok () :=
        fun hok ↦ by cases hok
      exact ⟨iff_of_false hnot hl, fun hok ↦ absurd hok hnot,
        fun _ ↦ ⟨rfl, r, hr, e, rfl, hblames, hfirst⟩⟩

/-- The configuration of a stage with a route and a binding, in a registry that holds a route of
another stage too. -/
theorem syncs_route_and_binding :
    let stage : Stage := { gateway := "gateway", name := "stage" }
    let route (s : Stage) : Resource := { kind := .route, stage := s, name := "route" }
    let secret : Resource :=
      { kind := .secret, stage, name := "cert"
        spec := .object [("data", .object [("tls.crt", .string "c"), ("tls.key", .string "k")])] }
    let binding : Resource :=
      { kind := .tlsBinding, stage, name := "tls"
        spec := .object [("secretRef", .string "cert"), ("snis", .array [.string "a.com"])] }
    let store := [{ kind := .stage, stage, name := "stage" }, route stage, secret, binding,
      route { stage with name := "other" }].foldl Store.put {}
    let services : Services := { registry := { store } }
    services.Commits stage ∧ store.Keyed ∧ stage.Plain ∧
      ∃ c, Describes store stage c ∧ c.routes.length = 1 ∧ c.ssls.length = 1 ∧
        ends services stage = (.ok (), [(0, .sync "gateway" "stage" c)]) := by
  intro stage route secret binding store services
  have hcommits : services.Commits stage := ⟨by decide, by decide, by decide, rfl⟩
  have hs : stage.Plain := by decide
  have hst : store.Keyed :=
    ((((Store.Keyed.empty.put hs).put hs).put hs).put hs).put (show '/' ∉ "other".toList by decide)
  have hobject : (store.content stage).object? ≠ none := by decide +kernel
  have hok : (ends services stage).1 = .ok () := by decide +kernel
  obtain ⟨-, hfound, -⟩ := syncs_current_content hcommits hst hs
  obtain ⟨-, hsyncs, -⟩ := hfound ((founded_iff hst hs).2 hobject)
  obtain ⟨c, hc, hdeeds⟩ := hsyncs hok
  have hroutes : (store.objects .route stage).length = 1 := by decide +kernel
  have hbindings : (store.objects .tlsBinding stage).length = 1 := by decide +kernel
  refine ⟨hcommits, hst, hs, c, hc, ?_, ?_, Prod.ext hok hdeeds⟩
  · rw [hc.routes.2.length_eq, List.length_map, hroutes]
  · obtain ⟨document, -, hssls⟩ := hc.ssls
    rw [hssls.2.length_eq, List.length_map, hbindings]

end Commit

end StageRelay
