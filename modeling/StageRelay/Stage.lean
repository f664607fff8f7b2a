import StageRelay.Json.Shape

/-!
# Stages

A stage is a published environment of a gateway. Events and commits carry a stage together with the
release that they belong to and with wishes about how to handle it; two stages are the same stage
when they agree on the names of the gateway and of the stage.
-/

namespace StageRelay

/-- Wishes that travel with a stage. -/
structure StageContext where
  skipReport : Bool := false
deriving DecidableEq, Repr

/-- A stage of a gateway, in one release. -/
structure Stage where
  gateway : String
  name : String
  publishId : Int64 := 0
  context : StageContext := {}
deriving DecidableEq, Repr

namespace Stage

/-- The stage without names, which stands for all stages. -/
def all : Stage := { gateway := "", name := "" }

/-- Whether a stage stands for all stages. -/
def isAll (s : Stage) : Bool :=
  s.gateway.isEmpty && s.name.isEmpty

/-- The text that identifies a stage. -/
def key (s : Stage) : String :=
  s.gateway ++ "/" ++ s.name

/-- Whether two stages have the same names. -/
def same (s t : Stage) : Bool :=
  s.gateway == t.gateway && s.name == t.name

/-- The stage in another release. -/
def withPublishId (s : Stage) (id : Int64) : Stage :=
  { s with publishId := id }

/-- The stage, committed without telling how that went. -/
def withoutReport (s : Stage) : Stage :=
  { s with context := { s.context with skipReport := true } }

/-- The stage as it is queued again after a failure: the next outcome is reported. -/
def forRetry (s : Stage) : Stage :=
  { s with context := { s.context with skipReport := false } }

end Stage

/-! ## Shapes -/

namespace StageContext

def skipReportField : Field Bool :=
  { name := "skip_report", shape := Shape.bool, default? := some false }

/-- The context that a draft describes. -/
def shape : Shape StageContext := fun d ↦ do
  let fields ← d.record "StageContext" [skipReportField.slot]
  return { skipReport := ← fields.get skipReportField }

/-- The context as JSON. -/
def toJson (c : StageContext) : Json :=
  .object [("skip_report", .bool c.skipReport)]

end StageContext

namespace Stage

def gatewayField : Field String :=
  { name := "gateway_name", shape := Shape.text }

def nameField : Field String :=
  { name := "stage_name", shape := Shape.text }

def publishIdField : Field Int64 :=
  { name := "publish_id", shape := Shape.int64, default? := some 0 }

def contextField : Field StageContext :=
  { name := "ctx", shape := StageContext.shape, default? := some {} }

/-- The stage that a draft describes. -/
def shape : Shape Stage := fun d ↦ do
  let fields ← d.record "StageInfo"
    [gatewayField.slot, nameField.slot, publishIdField.slot, contextField.slot]
  return {
    gateway := ← fields.get gatewayField
    name := ← fields.get nameField
    publishId := ← fields.get publishIdField
    context := ← fields.get contextField }

/-- The stage as JSON. -/
def toJson (s : Stage) : Json :=
  .object [
    ("ctx", s.context.toJson),
    ("gateway_name", .string s.gateway),
    ("publish_id", .int s.publishId.toInt),
    ("stage_name", .string s.name)]

end Stage

end StageRelay
