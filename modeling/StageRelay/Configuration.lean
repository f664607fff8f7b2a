import StageRelay.Json.Printer
import StageRelay.Json.Shape

/-!
# Configurations

What is published for a stage: named documents in four sections.
-/

namespace StageRelay

/-- The configuration of a stage. -/
structure Configuration where
  gateway : String
  stage : String
  routes : Dict Json := []
  services : Dict Json := []
  pluginMetadata : Dict Json := []
  ssls : Dict Json := []
deriving Repr

namespace Configuration

/-- The configuration that withdraws everything. -/
def empty (gateway stage : String) : Configuration :=
  { gateway, stage }

/-- Whether nothing is published. -/
def isEmpty (c : Configuration) : Bool :=
  c.routes.isEmpty && c.services.isEmpty && c.pluginMetadata.isEmpty && c.ssls.isEmpty

def gatewayField : Field String :=
  { name := "gateway_name", shape := Shape.text }

def stageField : Field String :=
  { name := "stage_name", shape := Shape.text }

def routesField : Field (Dict Json) :=
  { name := "routes", shape := Shape.dict Shape.any, default? := some [] }

def servicesField : Field (Dict Json) :=
  { name := "services", shape := Shape.dict Shape.any, default? := some [] }

def pluginMetadataField : Field (Dict Json) :=
  { name := "plugin_metadata", shape := Shape.dict Shape.any, default? := some [] }

def sslsField : Field (Dict Json) :=
  { name := "ssls", shape := Shape.dict Shape.any, default? := some [] }

/-- The configuration that a draft describes. -/
def shape : Shape Configuration := fun d ↦ do
  let fields ← d.record "StageConfiguration"
    [gatewayField.slot, stageField.slot, routesField.slot, servicesField.slot,
      pluginMetadataField.slot, sslsField.slot]
  return {
    gateway := ← fields.get gatewayField
    stage := ← fields.get stageField
    routes := ← fields.get routesField
    services := ← fields.get servicesField
    pluginMetadata := ← fields.get pluginMetadataField
    ssls := ← fields.get sslsField }

/-- The configuration as JSON. -/
def toJson (c : Configuration) : Json :=
  .object [
    ("gateway_name", .string c.gateway),
    ("plugin_metadata", .object c.pluginMetadata),
    ("routes", .object c.routes),
    ("services", .object c.services),
    ("ssls", .object c.ssls),
    ("stage_name", .string c.stage)]

/-- The document in which the configuration is stored. Its sections stand in a fixed order that is
not that of their names. -/
def document (c : Configuration) : String :=
  (Json.object [
    ("gateway_name", .string c.gateway),
    ("stage_name", .string c.stage),
    ("routes", .object c.routes),
    ("services", .object c.services),
    ("plugin_metadata", .object c.pluginMetadata),
    ("ssls", .object c.ssls)]).pretty 0

end Configuration

end StageRelay
