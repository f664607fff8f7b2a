import StageRelay.Proofs.Except
import StageRelay.Proofs.Indexing.World
import StageRelay.Proofs.Publishing.Content

/-!
# What is published of certificates

A TLS binding is published with the certificate that should also be indexed for it. So a change of
what is stored changes the configuration of a stage only if it concerns objects of other kinds, or
gives one of the bindings another certificate.
-/

namespace StageRelay

/-- The document with which a certificate is published. -/
def Certificate.document (c : Certificate) : Json :=
  .object [
    ("ca", .string c.ca),
    ("cert", .string c.chain),
    ("key", .string c.key),
    ("snis", .array (c.snis.map .string))]

namespace Indexing

open StageResources (documentName documents)

/-! ## Certificates of subjects -/

namespace Subject

/-- The certificate of a secret, or that of the secret of a binding for the names of the binding,
whether it can be served or not. -/
def certificate? (st : Store) : Subject → Option Certificate
  | secret k => do
    let r ← st.get? .secret k.key
    let data ← r.secretData.toOption
    return .ofSecret data
  | binding k => do
    let r ← st.get? .tlsBinding k.key
    let b ← r.tlsBinding.toOption
    let secret ← st.get? .secret ⟨k.owner, b.secretRef⟩
    let data ← secret.secretData.toOption
    return (Certificate.ofSecret data).pin b.snis

theorem wanted?_eq (st : Store) (u : Subject) :
    u.wanted? st = (u.certificate? st).bind Certificate.tracked? := by
  cases u <;> simp [wanted?, certificate?, Option.bind_assoc, Option.bind_eq_bind]

theorem certificate?_secret {st : Store} {k : Identity} {c : Certificate} :
    (secret k).certificate? st = some c ↔
      ∃ r data, st.get? .secret k.key = some r ∧ r.secretData = .ok data ∧ .ofSecret data = c := by
  simp [certificate?, Option.bind_eq_some_iff, Except.toOption_eq_some_iff]

theorem certificate?_binding {st : Store} {k : Identity} {c : Certificate} :
    (binding k).certificate? st = some c ↔
      ∃ r b secret data, st.get? .tlsBinding k.key = some r ∧ r.tlsBinding = .ok b ∧
        st.get? .secret ⟨k.owner, b.secretRef⟩ = some secret ∧ secret.secretData = .ok data ∧
        (Certificate.ofSecret data).pin b.snis = c := by
  simp [certificate?, Option.bind_eq_some_iff, Except.toOption_eq_some_iff]

end Subject

/-! ## Configurations -/

section Configuration

variable {st st' : Store} {s : Stage} {c c' : Configuration}

/-- The binding of a stage with a name. -/
def bindingOf (s : Stage) (name : String) : Subject :=
  .binding (ResourceKey.mk s name).identity

/-- The name under which the binding of a stage is published. -/
def bindingName (s : Stage) (name : String) : String :=
  s.gateway ++ "." ++ s.name ++ "." ++ name

theorem bindingName_inj {name name' : String} (h : bindingName s name = bindingName s name') :
    name = name' := by
  have h := congrArg String.toList h
  simpa [bindingName, String.toList_inj] using h

/-- A binding of a stage is published with its certificate. -/
theorem sslDocument_eq_ok_iff (h : st.Keyed) (hs : s.Plain) {r : Resource} {j : Json}
    (hr : r ∈ st.list .tlsBinding s) :
    (st.content s).resources.sslDocument r = .ok j ↔
      ∃ cert, (bindingOf s r.name).certificate? st = some cert ∧ cert.document = j := by
  have hget : st.get? .tlsBinding (ResourceKey.mk s r.name).identity.key = some r :=
    h.get?_of_mem_list hr
  have hsecret (name : String) : st.get? .secret
      ⟨(ResourceKey.mk s r.name).identity.owner, name⟩ = st.get? .secret ⟨s, name⟩ := rfl
  have hfind (name : String) : ((st.content s).resources.secrets.find? fun r ↦ r.name = name) =
      st.get? .secret ⟨s, name⟩ := h.find?_list hs .secret name
  simp only [StageResources.sslDocument, Except.bind_eq_ok_iff, Except.mapError_eq_ok_iff,
    bindingOf, Subject.certificate?_binding, hget, hsecret, hfind]
  constructor
  · rintro ⟨b, hb, hdoc⟩
    split at hdoc
    · cases hdoc
    · next secret hs =>
      obtain ⟨data, hdata, hj⟩ := Except.bind_eq_ok_iff.1 hdoc
      exact ⟨_, ⟨r, b, secret, data, rfl, hb, hs, Except.mapError_eq_ok_iff.1 hdata, rfl⟩,
        Except.ok.inj hj⟩
  · rintro ⟨cert, ⟨r', b, secret, data, hr', hb, hs, hdata, rfl⟩, rfl⟩
    obtain rfl := Option.some.inj hr'
    refine ⟨b, hb, ?_⟩
    rw [hs]
    exact Except.bind_eq_ok_iff.2 ⟨data, Except.mapError_eq_ok_iff.2 hdata, rfl⟩

/-- If what is stored for a stage makes a configuration, then every binding has a certificate, and
is published with it. -/
theorem convert_spec (h : st.Keyed) (hs : s.Plain)
    (hc : (st.content s).resources.convert s = .ok c) :
    (∀ name r, st.get? .tlsBinding ⟨s, name⟩ = some r →
      ∃ cert, (bindingOf s name).certificate? st = some cert) ∧
    ∃ es : List (String × Json), c = {
        gateway := s.gateway
        stage := s.name
        routes := documents (documentName s) (st.list .route s)
        services := documents (documentName s) (st.list .service s)
        pluginMetadata := documents Resource.name (st.list .pluginMetadata s)
        ssls := Dict.ofEntries es } ∧
      ∀ k j, (k, j) ∈ es ↔ ∃ name cert, bindingName s name = k ∧
        (bindingOf s name).certificate? st = some cert ∧ cert.document = j := by
  obtain ⟨es, hes, hc⟩ := Except.bind_eq_ok_iff.1 hc
  obtain ⟨hall, hmem⟩ := Except.mem_of_mapM_eq_ok hes
  have hentry {r : Resource} (hr : r ∈ st.list .tlsBinding s) {k : String} {j : Json} :
      (do return (documentName s r, ← (st.content s).resources.sslDocument r) :
        Except ConvertError (String × Json)) = .ok (k, j) ↔
      bindingName s r.name = k ∧ ∃ cert, (bindingOf s r.name).certificate? st = some cert ∧
        cert.document = j := by
    rw [← sslDocument_eq_ok_iff h hs hr, Except.bind_eq_ok_iff]
    constructor
    · rintro ⟨j', hj, heq⟩
      obtain ⟨rfl, rfl⟩ := Prod.mk.inj (Except.ok.inj heq)
      exact ⟨rfl, hj⟩
    · rintro ⟨rfl, hj⟩
      exact ⟨j, hj, rfl⟩
  refine ⟨fun name r hr ↦ ?_, es, (Except.ok.inj hc).symm, fun k j ↦ ?_⟩
  · obtain ⟨hlist, rfl⟩ := h.mem_list_of_get? hs hr
    obtain ⟨⟨k, j⟩, he⟩ := hall r hlist
    obtain ⟨-, cert, hcert, -⟩ := (hentry hlist).1 he
    exact ⟨cert, hcert⟩
  · rw [hmem]
    constructor
    · rintro ⟨r, hr, he⟩
      obtain ⟨hk, cert, hcert, hj⟩ := (hentry hr).1 he
      exact ⟨r.name, cert, hk, hcert, hj⟩
    · rintro ⟨name, cert, hk, hcert, hj⟩
      obtain ⟨r, -, -, -, hr, -⟩ := Subject.certificate?_binding.1 hcert
      obtain ⟨hlist, rfl⟩ : r ∈ _ ∧ r.name = name := h.mem_list_of_get? hs hr
      exact ⟨r, hlist, (hentry hlist).2 ⟨hk, cert, hcert, hj⟩⟩

/-- If no binding of a stage gets another certificate and nothing of other kinds changes, the
configuration stays the same. -/
theorem configuration_eq (h : st.Keyed) (h' : st'.Keyed) (hs : s.Plain)
    (hlist : ∀ kind, kind.isCertificate = false → st'.list kind s = st.list kind s)
    (hcert : ∀ name, (bindingOf s name).certificate? st' = (bindingOf s name).certificate? st)
    (hc : (st.content s).resources.convert s = .ok c)
    (hc' : (st'.content s).resources.convert s = .ok c') : c' = c := by
  obtain ⟨-, es, rfl, hes⟩ := convert_spec h hs hc
  obtain ⟨-, es', rfl, hes'⟩ := convert_spec h' hs hc'
  have hunique (k : String) (j j' : Json) (hj : (k, j) ∈ es) (hj' : (k, j') ∈ es) : j = j' := by
    obtain ⟨name, cert, rfl, hcert, rfl⟩ := (hes k j).1 hj
    obtain ⟨name', cert', hname, hcert', rfl⟩ := (hes _ j').1 hj'
    rw [bindingName_inj hname, hcert] at hcert'
    rw [Option.some.inj hcert']
  have hsame (k : String) (j : Json) : (k, j) ∈ es' ↔ (k, j) ∈ es := by
    simp only [hes, hes', hcert]
  have hssls : Dict.ofEntries es' = Dict.ofEntries es := by
    refine (Dict.sorted_ofEntries es').ext (Dict.sorted_ofEntries es) fun k ↦ Option.ext fun j ↦ ?_
    rw [Dict.find?_ofEntries_eq_some_iff hunique, Dict.find?_ofEntries_eq_some_iff, hsame]
    simp only [hsame]
    exact hunique
  rw [hssls, hlist .route rfl, hlist .service rfl, hlist .pluginMetadata rfl]

end Configuration

end Indexing

end StageRelay
