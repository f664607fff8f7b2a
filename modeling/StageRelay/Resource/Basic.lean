import StageRelay.Resource.Kind
import StageRelay.Stage

/-!
# Resources

The objects of the registry, the keys under which they are looked up, the notices of their changes,
and the two kinds of content that concern certificates: secrets and TLS bindings.
-/

namespace StageRelay

/-- What tells resources of one kind apart: the names, and nothing of the release. -/
structure Identity where
  gateway : String
  stage : String
  name : String
deriving DecidableEq, Repr

/-- Names a resource of a stage. -/
structure ResourceKey where
  stage : Stage
  name : String
deriving DecidableEq, Repr

namespace ResourceKey

/-- The names in a key. -/
def identity (k : ResourceKey) : Identity :=
  ⟨k.stage.gateway, k.stage.name, k.name⟩

/-- Whether two keys name the same resource. -/
def same (a b : ResourceKey) : Bool :=
  a.identity == b.identity

/-- The text of a key. -/
def text (k : ResourceKey) : String :=
  k.stage.key ++ "/" ++ k.name

/-- How the names of keys begin that belong to bindings and not to secrets. -/
def bindingMark : String := "__virtual_tls__/"

/-- The key under which the certificate of a TLS binding is kept apart from those of secrets. -/
def ofBinding (k : ResourceKey) : ResourceKey :=
  { k with name := bindingMark ++ k.name }

def stageField : Field Stage :=
  { name := "stage", shape := Stage.shape }

def nameField : Field String :=
  { name := "resource_name", shape := Shape.text }

/-- The key that a draft describes. -/
def shape : Shape ResourceKey := fun d ↦ do
  let fields ← d.record "ResourceKey" [stageField.slot, nameField.slot]
  return { stage := ← fields.get stageField, name := ← fields.get nameField }

/-- The key as JSON. -/
def toJson (k : ResourceKey) : Json :=
  .object [("resource_name", .string k.name), ("stage", k.stage.toJson)]

end ResourceKey

/-- The notice of a change. -/
structure Notice where
  stage : Stage
  apiVersion : String := ""
  kind : Kind := .unspecified
  name : String := ""
  retries : UInt32 := 0
deriving DecidableEq, Repr

namespace Notice

/-- Whether a notice concerns all stages. -/
def isAll (n : Notice) : Bool :=
  n.stage.isAll

/-- The key of the changed resource. -/
def key (n : Notice) : ResourceKey :=
  ⟨n.stage, n.name⟩

def stageField : Field Stage :=
  { name := "stage", shape := Stage.shape }

def apiVersionField : Field String :=
  { name := "api_version", shape := Shape.text, default? := some "" }

def kindField : Field Kind :=
  { name := "kind", shape := Kind.shape, default? := some .unspecified }

def nameField : Field String :=
  { name := "name", shape := Shape.text, default? := some "" }

def retriesField : Field UInt32 :=
  { name := "retry_count", shape := Shape.uint32, default? := some 0 }

/-- The notice that a draft describes. -/
def shape : Shape Notice := fun d ↦ do
  let fields ← d.record "ResourceMetadata"
    [stageField.slot, apiVersionField.slot, kindField.slot, nameField.slot, retriesField.slot]
  return {
    stage := ← fields.get stageField
    apiVersion := ← fields.get apiVersionField
    kind := ← fields.get kindField
    name := ← fields.get nameField
    retries := ← fields.get retriesField }

/-- The notice as JSON. -/
def toJson (n : Notice) : Json :=
  .object [
    ("api_version", .string n.apiVersion),
    ("kind", n.kind.toJson),
    ("name", .string n.name),
    ("retry_count", .int n.retries.toNat),
    ("stage", n.stage.toJson)]

end Notice

/-- An object of the registry. -/
structure Resource where
  kind : Kind
  apiVersion : String := ""
  stage : Stage
  name : String
  spec : Json := .null
deriving Repr

namespace Resource

/-- The key of a resource. -/
def key (r : Resource) : ResourceKey :=
  ⟨r.stage, r.name⟩

/-- The notice that a resource changed. -/
def notice (r : Resource) : Notice :=
  { stage := r.stage, apiVersion := r.apiVersion, kind := r.kind, name := r.name }

def kindField : Field Kind :=
  { name := "kind", shape := Kind.shape }

def apiVersionField : Field String :=
  { name := "api_version", shape := Shape.text, default? := some "" }

def stageField : Field Stage :=
  { name := "stage", shape := Stage.shape }

def nameField : Field String :=
  { name := "name", shape := Shape.text }

def specField : Field Json :=
  { name := "spec", shape := Shape.any, default? := some .null }

/-- The resource that a draft describes. -/
def shape : Shape Resource := fun d ↦ do
  let fields ← d.record "Resource"
    [kindField.slot, apiVersionField.slot, stageField.slot, nameField.slot, specField.slot]
  return {
    kind := ← fields.get kindField
    apiVersion := ← fields.get apiVersionField
    stage := ← fields.get stageField
    name := ← fields.get nameField
    spec := ← fields.get specField }

/-- The resource as JSON. -/
def toJson (r : Resource) : Json :=
  .object [
    ("api_version", .string r.apiVersion),
    ("kind", r.kind.toJson),
    ("name", .string r.name),
    ("spec", r.spec),
    ("stage", r.stage.toJson)]

end Resource

/-- The content of a secret: texts by the names of their fields. -/
structure SecretData where
  data : Dict String := []
deriving DecidableEq, Repr

namespace SecretData

/-- The text of a field; a field that is not there is empty. -/
def field (s : SecretData) (name : String) : String :=
  (s.data.find? name).getD ""

/-- The certificate and those that vouch for it. -/
def chain (s : SecretData) : String := s.field "tls.crt"

/-- The private key. -/
def key (s : SecretData) : String := s.field "tls.key"

/-- The certificate of the authority that vouches for clients. -/
def ca (s : SecretData) : String := s.field "ca.crt"

def dataField : Field (Dict String) :=
  { name := "data", shape := Shape.dict Shape.text, default? := some [] }

/-- The secret that a draft describes. -/
def shape : Shape SecretData := fun d ↦ do
  let fields ← d.record "SecretData" [dataField.slot]
  return { data := ← fields.get dataField }

/-- The secret as JSON. -/
def toJson (s : SecretData) : Json :=
  .object [("data", .object (s.data.map fun e ↦ (e.1, .string e.2)))]

end SecretData

/-- The content of a TLS binding: the secret it points at and the names that it serves. -/
structure TlsBinding where
  secretRef : String
  snis : List String := []
deriving DecidableEq, Repr

namespace TlsBinding

def secretRefField : Field String :=
  { name := "secretRef", aliases := ["gatewayTLSSecretRef"], shape := Shape.text }

def snisField : Field (List String) :=
  { name := "snis", shape := Shape.list Shape.text, default? := some [] }

/-- The binding that a draft describes. -/
def shape : Shape TlsBinding := fun d ↦ do
  let fields ← d.record "TlsBindingSpec" [secretRefField.slot, snisField.slot]
  return { secretRef := ← fields.get secretRefField, snis := ← fields.get snisField }

/-- The binding as JSON. -/
def toJson (b : TlsBinding) : Json :=
  .object [("secretRef", .string b.secretRef), ("snis", .array (b.snis.map .string))]

end TlsBinding

namespace Resource

/-- The content of the resource as a secret. -/
def secretData (r : Resource) : Except Fault SecretData :=
  SecretData.shape (Draft.ofJson r.spec)

/-- The content of the resource as a TLS binding. -/
def tlsBinding (r : Resource) : Except Fault TlsBinding :=
  TlsBinding.shape (Draft.ofJson r.spec)

end Resource

end StageRelay
