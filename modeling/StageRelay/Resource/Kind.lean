import StageRelay.Json.Shape

/-!
# Kinds of resources

Each kind has one name, and each name belongs to one kind.
-/

namespace StageRelay

/-- The kind of a resource. -/
inductive Kind where
  /-- No kind: everything has to be looked at again. -/
  | unspecified
  | stage
  | route
  | service
  | pluginMetadata
  | gatewayInstance
  | secret
  | tlsBinding
  | other (name : String)
deriving DecidableEq, Repr

namespace Kind

/-- The name of a kind. -/
def name : Kind → String
  | .unspecified => ""
  | .stage => "BkGatewayStage"
  | .route => "BkGatewayRoute"
  | .service => "BkGatewayService"
  | .pluginMetadata => "BkGatewayPluginMetadata"
  | .gatewayInstance => "BkGatewayInstance"
  | .secret => "Secret"
  | .tlsBinding => "BkGatewayTLS"
  | .other name => name

/-- The kind of a name. -/
def ofName (name : String) : Kind :=
  if name = "" then .unspecified
  else if name = "BkGatewayStage" then .stage
  else if name = "BkGatewayRoute" then .route
  else if name = "BkGatewayService" then .service
  else if name = "BkGatewayPluginMetadata" then .pluginMetadata
  else if name = "BkGatewayInstance" then .gatewayInstance
  else if name = "Secret" then .secret
  else if name = "BkGatewayTLS" then .tlsBinding
  else .other name

/-- The kinds that make up the configuration of a stage, in the order in which they are read. -/
def stageScoped : List Kind :=
  [.route, .service, .pluginMetadata, .tlsBinding, .secret]

/-- Whether changes of a kind concern certificates before they concern a stage. -/
def isCertificate : Kind → Bool
  | .unspecified | .secret | .tlsBinding => true
  | _ => false

/-- The kind that a draft names. -/
def shape : Shape Kind := fun d ↦
  ofName <$> Shape.text d

/-- The kind as JSON. -/
def toJson (k : Kind) : Json :=
  .string k.name

theorem name_ofName (n : String) : (ofName n).name = n := by
  unfold ofName
  repeat' split
  all_goals simp_all [name]

end Kind

end StageRelay
