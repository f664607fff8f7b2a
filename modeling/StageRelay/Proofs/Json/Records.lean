import StageRelay.Configuration
import StageRelay.Proofs.Json.Rereading
import StageRelay.Resource.Basic

/-!
# Records that are read and written

The records that are exchanged and stored are read in many ways: fields may be left out, may have
another name or stand in an array, and there may be others that nobody knows. They are written in
one way, as objects with all their fields, and are read from it as they were.
-/

namespace StageRelay

/-! ## Stages -/

namespace StageContext

/-- The names of the fields of a context. -/
def names : List String :=
  [skipReportField.name]

theorem perm_names : List.Perm ["skip_report"] names := by
  decide

/-- The fields of a context. -/
def filled (c : StageContext) : List Filled :=
  [⟨skipReportField, c.skipReport, .bool c.skipReport, rfl⟩]

theorem shape_toJson (c : StageContext) : shape (.ofJson c.toJson) = .ok c := by
  refine Filled.record_bind c.filled ?_ perm_names ?_ ?_
  · show Fields.Apart [skipReportField.slot]
    decide
  · simp [filled, Filled.entry, skipReportField]
  · intro taken h
    rw [h _ (List.mem_singleton_self _)]
    rfl

theorem survives : Survives shape toJson names :=
  (Shape.Rereads.of_forall shape_toJson).survives fun _ ↦ ⟨_, rfl, perm_names⟩

end StageContext

namespace Stage

/-- The names of the fields of a stage. -/
def names : List String :=
  [gatewayField.name, nameField.name, publishIdField.name, contextField.name]

theorem perm_names : List.Perm ["ctx", "gateway_name", "publish_id", "stage_name"] names := by
  decide

/-- The fields of a stage. -/
def filled (s : Stage) : List Filled :=
  [⟨gatewayField, s.gateway, .string s.gateway, rfl⟩,
    ⟨nameField, s.name, .string s.name, rfl⟩,
    ⟨publishIdField, s.publishId, .int s.publishId.toInt, Shape.int64_ofJson _⟩,
    ⟨contextField, s.context, s.context.toJson, s.context.shape_toJson⟩]

theorem shape_toJson (s : Stage) : shape (.ofJson s.toJson) = .ok s := by
  refine Filled.record_bind s.filled ?_ perm_names ?_ ?_
  · show Fields.Apart [gatewayField.slot, nameField.slot, publishIdField.slot, contextField.slot]
    decide
  · simp [filled, Filled.entry, gatewayField, nameField, publishIdField, contextField]
  · intro taken h
    simp only [filled, List.forall_mem_cons] at h
    obtain ⟨hgateway, hname, hid, hcontext, -⟩ := h
    rw [hgateway, hname, hid, hcontext]
    rfl

theorem survives : Survives shape toJson names :=
  (Shape.Rereads.of_forall shape_toJson).survives fun _ ↦ ⟨_, rfl, perm_names⟩

end Stage

/-! ## Keys and notices -/

namespace ResourceKey

/-- The names of the fields of a key. -/
def names : List String :=
  [stageField.name, nameField.name]

theorem perm_names : List.Perm ["resource_name", "stage"] names := by
  decide

/-- The fields of a key. -/
def filled (k : ResourceKey) : List Filled :=
  [⟨stageField, k.stage, k.stage.toJson, k.stage.shape_toJson⟩,
    ⟨nameField, k.name, .string k.name, rfl⟩]

theorem shape_toJson (k : ResourceKey) : shape (.ofJson k.toJson) = .ok k := by
  refine Filled.record_bind k.filled ?_ perm_names ?_ ?_
  · show Fields.Apart [stageField.slot, nameField.slot]
    decide
  · simp [filled, Filled.entry, stageField, nameField]
  · intro taken h
    simp only [filled, List.forall_mem_cons] at h
    obtain ⟨hstage, hname, -⟩ := h
    rw [hstage, hname]
    rfl

theorem survives : Survives shape toJson names :=
  (Shape.Rereads.of_forall shape_toJson).survives fun _ ↦ ⟨_, rfl, perm_names⟩

end ResourceKey

namespace Kind

/-- A kind that was read is the one that its name stands for. -/
theorem rereads : shape.Rereads toJson := by
  intro d k h
  cases d with
  | string n =>
    obtain rfl : ofName n = k := Except.ok.inj h
    show Except.ok (ofName (ofName n).name) = _
    rw [name_ofName]
  | _ => cases h

end Kind

namespace Notice

/-- The names of the fields of a notice. -/
def names : List String :=
  [stageField.name, apiVersionField.name, kindField.name, nameField.name, retriesField.name]

theorem perm_names : List.Perm ["api_version", "kind", "name", "retry_count", "stage"] names := by
  decide

section Filled

variable {n : Notice}

/-- The fields of a notice. -/
def filled (n : Notice) (hkind : Kind.shape (.ofJson n.kind.toJson) = .ok n.kind) : List Filled :=
  [⟨stageField, n.stage, n.stage.toJson, n.stage.shape_toJson⟩,
    ⟨apiVersionField, n.apiVersion, .string n.apiVersion, rfl⟩,
    ⟨kindField, n.kind, n.kind.toJson, hkind⟩,
    ⟨nameField, n.name, .string n.name, rfl⟩,
    ⟨retriesField, n.retries, .int n.retries.toNat, Shape.uint32_ofJson _⟩]

variable (hkind : Kind.shape (.ofJson n.kind.toJson) = .ok n.kind)
include hkind

theorem shape_toJson : shape (.ofJson n.toJson) = .ok n := by
  refine Filled.record_bind (n.filled hkind) ?_ perm_names ?_ ?_
  · show Fields.Apart [stageField.slot, apiVersionField.slot, kindField.slot, nameField.slot,
      retriesField.slot]
    decide
  · simp [filled, Filled.entry, stageField, apiVersionField, kindField, nameField, retriesField]
  · intro taken h
    simp only [filled, List.forall_mem_cons] at h
    obtain ⟨hstage, hversion, hkind, hname, hretries, -⟩ := h
    rw [hstage, hversion, hkind, hname, hretries]
    rfl

end Filled

theorem rereads : shape.Rereads toJson := by
  intro d n h
  obtain ⟨taken, -, h⟩ := Except.bind_eq_ok_iff.1 h
  obtain ⟨stage, -, h⟩ := Except.bind_eq_ok_iff.1 h
  obtain ⟨apiVersion, -, h⟩ := Except.bind_eq_ok_iff.1 h
  obtain ⟨kind, hkind, h⟩ := Except.bind_eq_ok_iff.1 h
  obtain ⟨name, -, h⟩ := Except.bind_eq_ok_iff.1 h
  obtain ⟨retries, -, h⟩ := Except.bind_eq_ok_iff.1 h
  obtain rfl := Except.ok.inj h
  exact shape_toJson (Fields.reread_of_get (f := kindField) Kind.rereads (by decide) hkind)

theorem survives : Survives shape toJson names :=
  rereads.survives fun _ ↦ ⟨_, rfl, perm_names⟩

end Notice

/-! ## Resources and their contents -/

namespace Resource

/-- The names of the fields of a resource. -/
def names : List String :=
  [kindField.name, apiVersionField.name, stageField.name, nameField.name, specField.name]

theorem perm_names : List.Perm ["api_version", "kind", "name", "spec", "stage"] names := by
  decide

section Filled

variable {r : Resource}

/-- The fields of a resource. -/
def filled (r : Resource) (hkind : Kind.shape (.ofJson r.kind.toJson) = .ok r.kind)
    (hspec : Shape.any (.ofJson r.spec) = .ok r.spec) : List Filled :=
  [⟨kindField, r.kind, r.kind.toJson, hkind⟩,
    ⟨apiVersionField, r.apiVersion, .string r.apiVersion, rfl⟩,
    ⟨stageField, r.stage, r.stage.toJson, r.stage.shape_toJson⟩,
    ⟨nameField, r.name, .string r.name, rfl⟩,
    ⟨specField, r.spec, r.spec, hspec⟩]

variable (hkind : Kind.shape (.ofJson r.kind.toJson) = .ok r.kind)
  (hspec : Shape.any (.ofJson r.spec) = .ok r.spec)
include hkind hspec

theorem shape_toJson : shape (.ofJson r.toJson) = .ok r := by
  refine Filled.record_bind (r.filled hkind hspec) ?_ perm_names ?_ ?_
  · show Fields.Apart [kindField.slot, apiVersionField.slot, stageField.slot, nameField.slot,
      specField.slot]
    decide
  · simp [filled, Filled.entry, kindField, apiVersionField, stageField, nameField, specField]
  · intro taken h
    simp only [filled, List.forall_mem_cons] at h
    obtain ⟨hkind, hversion, hstage, hname, hspec, -⟩ := h
    rw [hkind, hversion, hstage, hname, hspec]
    rfl

end Filled

theorem rereads : shape.Rereads toJson := by
  intro d r h
  obtain ⟨taken, -, h⟩ := Except.bind_eq_ok_iff.1 h
  obtain ⟨kind, hkind, h⟩ := Except.bind_eq_ok_iff.1 h
  obtain ⟨apiVersion, -, h⟩ := Except.bind_eq_ok_iff.1 h
  obtain ⟨stage, -, h⟩ := Except.bind_eq_ok_iff.1 h
  obtain ⟨name, -, h⟩ := Except.bind_eq_ok_iff.1 h
  obtain ⟨spec, hspec, h⟩ := Except.bind_eq_ok_iff.1 h
  obtain rfl := Except.ok.inj h
  have hdefault : ∀ v ∈ specField.default?, Shape.any (.ofJson v) = .ok v := by
    rintro v ⟨⟩
    rfl
  exact shape_toJson (Fields.reread_of_get (f := kindField) Kind.rereads nofun hkind)
    (Fields.reread_of_get (f := specField) Shape.any_rereads hdefault hspec)

theorem survives : Survives shape toJson names :=
  rereads.survives fun _ ↦ ⟨_, rfl, perm_names⟩

end Resource

namespace SecretData

/-- How the texts of a secret are written. -/
def texts (data : Dict String) : Json :=
  .object (data.map fun e ↦ (e.1, .string e.2))

/-- The names of the fields of a secret. -/
def names : List String :=
  [dataField.name]

theorem perm_names : List.Perm ["data"] names := by
  decide

section Filled

variable {s : SecretData}

/-- The fields of a secret. -/
def filled (s : SecretData) (hdata : dataField.shape (.ofJson (texts s.data)) = .ok s.data) :
    List Filled :=
  [⟨dataField, s.data, texts s.data, hdata⟩]

variable (hdata : dataField.shape (.ofJson (texts s.data)) = .ok s.data)
include hdata

theorem shape_toJson : shape (.ofJson s.toJson) = .ok s := by
  refine Filled.record_bind (s.filled hdata) ?_ perm_names ?_ ?_
  · show Fields.Apart [dataField.slot]
    decide
  · simp [filled, Filled.entry, dataField, texts]
  · intro taken h
    rw [h _ (List.mem_singleton_self _)]
    rfl

end Filled

theorem rereads : shape.Rereads toJson := by
  intro d s h
  obtain ⟨taken, -, h⟩ := Except.bind_eq_ok_iff.1 h
  obtain ⟨data, hdata, h⟩ := Except.bind_eq_ok_iff.1 h
  obtain rfl := Except.ok.inj h
  have htexts : dataField.shape.Rereads texts :=
    Shape.dict_rereads (.of_forall Shape.text_ofJson)
  exact shape_toJson (Fields.reread_of_get htexts (by decide) hdata)

theorem survives : Survives shape toJson names :=
  rereads.survives fun _ ↦ ⟨_, rfl, perm_names⟩

end SecretData

namespace TlsBinding

/-- The names of the fields of a binding. -/
def names : List String :=
  [secretRefField.name, snisField.name]

theorem perm_names : List.Perm ["secretRef", "snis"] names := by
  decide

/-- The fields of a binding. -/
def filled (b : TlsBinding) : List Filled :=
  [⟨secretRefField, b.secretRef, .string b.secretRef, rfl⟩,
    ⟨snisField, b.snis, .array (b.snis.map .string),
      Shape.list_ofJson fun n _ ↦ Shape.text_ofJson n⟩]

theorem shape_toJson (b : TlsBinding) : shape (.ofJson b.toJson) = .ok b := by
  refine Filled.record_bind b.filled ?_ perm_names ?_ ?_
  · show Fields.Apart [secretRefField.slot, snisField.slot]
    decide
  · simp [filled, Filled.entry, secretRefField, snisField]
  · intro taken h
    simp only [filled, List.forall_mem_cons] at h
    obtain ⟨hsecretRef, hsnis, -⟩ := h
    rw [hsecretRef, hsnis]
    rfl

theorem survives : Survives shape toJson names :=
  (Shape.Rereads.of_forall shape_toJson).survives fun _ ↦ ⟨_, rfl, perm_names⟩

end TlsBinding

/-! ## Configurations -/

namespace Configuration

/-- Whether the documents of a section are read as they are. -/
def Rereadable (documents : Dict Json) : Prop :=
  Shape.dict Shape.any (.ofJson (.object documents)) = .ok documents

theorem rereadable_of_get {taken : Fields} {f : Field (Dict Json)} {documents : Dict Json}
    (hshape : f.shape = Shape.dict Shape.any) (hdefault : f.default? = some [])
    (h : taken.get f = .ok documents) : Rereadable documents := by
  have hf : f.shape.Rereads Json.object := by
    have hdict := Shape.dict_rereads Shape.any_rereads
    simp only [id, List.map_id'] at hdict
    exact hshape ▸ hdict
  have hempty : ∀ b ∈ f.default?, f.shape (.ofJson (.object b)) = .ok b := by
    rw [hdefault, hshape]
    rintro b ⟨⟩
    rfl
  rw [Rereadable, ← hshape]
  exact Fields.reread_of_get hf hempty h

/-- The names of the fields of a configuration. -/
def names : List String :=
  [gatewayField.name, stageField.name, routesField.name, servicesField.name,
    pluginMetadataField.name, sslsField.name]

theorem perm_names :
    List.Perm ["gateway_name", "plugin_metadata", "routes", "services", "ssls",
      "stage_name"] names := by
  decide

section Filled

variable {c : Configuration}

/-- The fields of a configuration. -/
def filled (c : Configuration) (hroutes : Rereadable c.routes) (hservices : Rereadable c.services)
    (hplugins : Rereadable c.pluginMetadata) (hssls : Rereadable c.ssls) : List Filled :=
  [⟨gatewayField, c.gateway, .string c.gateway, rfl⟩,
    ⟨stageField, c.stage, .string c.stage, rfl⟩,
    ⟨routesField, c.routes, .object c.routes, hroutes⟩,
    ⟨servicesField, c.services, .object c.services, hservices⟩,
    ⟨pluginMetadataField, c.pluginMetadata, .object c.pluginMetadata, hplugins⟩,
    ⟨sslsField, c.ssls, .object c.ssls, hssls⟩]

variable (hroutes : Rereadable c.routes) (hservices : Rereadable c.services)
  (hplugins : Rereadable c.pluginMetadata) (hssls : Rereadable c.ssls)
include hroutes hservices hplugins hssls

theorem shape_toJson : shape (.ofJson c.toJson) = .ok c := by
  refine Filled.record_bind (c.filled hroutes hservices hplugins hssls) ?_ perm_names ?_ ?_
  · show Fields.Apart [gatewayField.slot, stageField.slot, routesField.slot, servicesField.slot,
      pluginMetadataField.slot, sslsField.slot]
    decide
  · simp [filled, Filled.entry, gatewayField, stageField, routesField, servicesField,
      pluginMetadataField, sslsField]
  · intro taken h
    simp only [filled, List.forall_mem_cons] at h
    obtain ⟨hgateway, hstage, hroutes, hservices, hplugins, hssls, -⟩ := h
    rw [hgateway, hstage, hroutes, hservices, hplugins, hssls]
    rfl

end Filled

theorem rereads : shape.Rereads toJson := by
  intro d c h
  obtain ⟨taken, -, h⟩ := Except.bind_eq_ok_iff.1 h
  obtain ⟨gateway, -, h⟩ := Except.bind_eq_ok_iff.1 h
  obtain ⟨stage, -, h⟩ := Except.bind_eq_ok_iff.1 h
  obtain ⟨routes, hroutes, h⟩ := Except.bind_eq_ok_iff.1 h
  obtain ⟨services, hservices, h⟩ := Except.bind_eq_ok_iff.1 h
  obtain ⟨plugins, hplugins, h⟩ := Except.bind_eq_ok_iff.1 h
  obtain ⟨ssls, hssls, h⟩ := Except.bind_eq_ok_iff.1 h
  obtain rfl := Except.ok.inj h
  exact shape_toJson (rereadable_of_get rfl rfl hroutes) (rereadable_of_get rfl rfl hservices)
    (rereadable_of_get rfl rfl hplugins) (rereadable_of_get rfl rfl hssls)

theorem survives : Survives shape toJson names :=
  rereads.survives fun _ ↦ ⟨_, rfl, perm_names⟩

end Configuration

/-! ## All records -/

/-- However the stages, notices, keys, resources, secrets, bindings and configurations that are
exchanged are written, what is read of them survives being written as an object with all fields.
Values are the same here if all their fields are, also the release and the context of a stage, which
do not count where keys or stages are told apart by their names. -/
theorem records_survive :
    Survives Stage.shape Stage.toJson Stage.names ∧
      Survives StageContext.shape StageContext.toJson StageContext.names ∧
      Survives Notice.shape Notice.toJson Notice.names ∧
      Survives ResourceKey.shape ResourceKey.toJson ResourceKey.names ∧
      Survives Resource.shape Resource.toJson Resource.names ∧
      Survives SecretData.shape SecretData.toJson SecretData.names ∧
      Survives TlsBinding.shape TlsBinding.toJson TlsBinding.names ∧
      Survives Configuration.shape Configuration.toJson Configuration.names :=
  ⟨Stage.survives, StageContext.survives, Notice.survives, ResourceKey.survives,
    Resource.survives, SecretData.survives, TlsBinding.survives, Configuration.survives⟩

/-- A binding under the other name of its field, with a field that nobody knows, and a notice as an
array without its last fields, whose stage is an array, too. -/
theorem records_survive_in_other_forms :
    let b : TlsBinding := { secretRef := "secret" }
    let stage : Stage := { gateway := "gateway", name := "stage", publishId := -7 }
    let n : Notice := { stage, apiVersion := "v1", kind := .other "Secrets" }
    let aliased : Json := .object [("gatewayTLSSecretRef", .string "secret"), ("note", .null)]
    let positional : Json := .array
      [.array [.string "gateway", .string "stage", .int (-7)], .string "v1", .string "Secrets"]
    TlsBinding.shape (.ofJson aliased) = .ok b ∧ TlsBinding.shape (.ofJson b.toJson) = .ok b ∧
      Notice.shape (.ofJson positional) = .ok n ∧ Notice.shape (.ofJson n.toJson) = .ok n := by
  intro b stage n aliased positional
  obtain ⟨-, -, hnotice, -, -, -, hbinding, -⟩ := records_survive
  have haliased : TlsBinding.shape (.ofJson aliased) = .ok b := by decide +kernel
  have hpositional : Notice.shape (.ofJson positional) = .ok n := by decide +kernel
  exact ⟨haliased, hbinding.back _ _ haliased, hpositional, hnotice.back _ _ hpositional⟩

end StageRelay
