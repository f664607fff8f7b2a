import StageRelay.Configuration
import StageRelay.Resource.Basic

/-!
# From resources to a configuration

Each resource of a stage becomes a document of one section, under a name qualified by the stage;
plugin metadata belongs to its plugin and keeps its own name. A TLS binding is published with the
key material of the secret that it points at.
-/

namespace StageRelay

/-- The resources of a stage by what they become. -/
structure StageResources where
  routes : List Resource := []
  services : List Resource := []
  pluginMetadata : List Resource := []
  tlsBindings : List Resource := []
  secrets : List Resource := []
deriving Repr

/-- Adds resources of a kind; other kinds have no place. -/
def StageResources.extend (s : StageResources) (kind : Kind) (rs : List Resource) :
    StageResources :=
  match kind with
  | .route => { s with routes := s.routes ++ rs }
  | .service => { s with services := s.services ++ rs }
  | .pluginMetadata => { s with pluginMetadata := s.pluginMetadata ++ rs }
  | .tlsBinding => { s with tlsBindings := s.tlsBindings ++ rs }
  | .secret => { s with secrets := s.secrets ++ rs }
  | _ => s

/-- Why resources make no configuration. -/
inductive ConvertError where
  | invalid (kind : Kind) (name : String) (fault : Fault)
  | missingSecret (binding secret : String)
deriving DecidableEq, Repr

/-- The text of an error. -/
def ConvertError.message : ConvertError → String
  | .invalid kind name fault => "Invalid " ++ kind.name ++ " " ++ name ++ ": " ++ fault.message
  | .missingSecret binding secret =>
    "TLS binding " ++ binding ++ " references missing secret " ++ secret

namespace StageResources

/-- The name under which a resource of a stage is published. -/
def documentName (stage : Stage) (r : Resource) : String :=
  stage.gateway ++ "." ++ stage.name ++ "." ++ r.name

/-- The document of a TLS binding. -/
def sslDocument (s : StageResources) (r : Resource) : Except ConvertError Json := do
  let binding ← r.tlsBinding.mapError (.invalid r.kind r.name)
  match s.secrets.find? fun secret ↦ secret.name = binding.secretRef with
  | none => throw (.missingSecret r.name binding.secretRef)
  | some secret =>
    let data ← secret.secretData.mapError (.invalid secret.kind secret.name)
    return .object [
      ("ca", .string (data.ca)),
      ("cert", .string (data.chain)),
      ("key", .string (data.key)),
      ("snis", .array (binding.snis.map .string))]

/-- The section of resources that are published as they are. -/
def documents (name : Resource → String) (rs : List Resource) : Dict Json :=
  Dict.ofEntries (rs.map fun r ↦ (name r, r.spec))

/-- The configuration that resources of a stage make. -/
def convert (stage : Stage) (s : StageResources) : Except ConvertError Configuration := do
  let ssls ← s.tlsBindings.mapM fun r ↦ do return (documentName stage r, ← s.sslDocument r)
  return {
    gateway := stage.gateway
    stage := stage.name
    routes := documents (documentName stage) s.routes
    services := documents (documentName stage) s.services
    pluginMetadata := documents Resource.name s.pluginMetadata
    ssls := Dict.ofEntries ssls }

end StageResources

end StageRelay
