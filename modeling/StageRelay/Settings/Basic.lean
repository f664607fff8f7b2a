import StageRelay.Json.Shape

/-!
# Settings

What can be set, in six sections, and the values that hold when nothing is said. Times are
milliseconds unless said otherwise.
-/

namespace StageRelay

/-- How changes are gathered and failures are retried. -/
structure AgentSettings where
  /-- How long a stage has to be left alone before it is committed. -/
  debounceWindow : UInt64 := 2000
  /-- How long a stage may wait at most while it keeps changing. -/
  forceWindow : UInt64 := 10000
  tickInterval : UInt64 := 1000
  /-- How often a watch is tried. -/
  retryLimit : UInt32 := 3
  /-- The time between two tries, in seconds. -/
  retryDelay : UInt64 := 2
  eventRetryDelay : UInt64 := 5000
  maxEventRetries : UInt32 := 3
  maxPendingRetries : Nat := 1024
deriving DecidableEq, Repr

/-- How batches are committed. -/
structure CommitSettings where
  segmentSize : Nat := 10
  channelCapacity : Nat := 128
deriving DecidableEq, Repr

/-- How certificates are kept. -/
structure TlsSettings where
  /-- Whether every stage has an index of its own. -/
  perStage : Bool := true
deriving DecidableEq, Repr

/-- Where resources come from. -/
structure RegistrySettings where
  seedFile : Option String := none
deriving DecidableEq, Repr

/-- Where configurations go. -/
structure OutputSettings where
  directory : String := "./output"
deriving DecidableEq, Repr

/-- What is logged, and how. -/
structure LogSettings where
  level : String := "info"
  format : String := "pretty"
deriving DecidableEq, Repr

/-- All settings. -/
structure Settings where
  agent : AgentSettings := {}
  commit : CommitSettings := {}
  tls : TlsSettings := {}
  registry : RegistrySettings := {}
  output : OutputSettings := {}
  log : LogSettings := {}
deriving DecidableEq, Repr

/-- A field that keeps the value of the defaults when it is left out. -/
def settingField {α : Type} (name : String) (shape : Shape α) (a : α) : Field α :=
  { name, shape, default? := some a }

namespace AgentSettings

/-- The time between two tries of a watch, in milliseconds. -/
def retryDelayMillis (s : AgentSettings) : Nat :=
  1000 * s.retryDelay.toNat

/-- The number of tries of a watch. -/
def attempts (s : AgentSettings) : Nat :=
  max 1 s.retryLimit.toNat

def defaults : AgentSettings := {}

def debounceWindowField := settingField "debounce_window_ms" Shape.uint64 defaults.debounceWindow

def forceWindowField := settingField "force_window_ms" Shape.uint64 defaults.forceWindow

def tickIntervalField := settingField "tick_interval_ms" Shape.uint64 defaults.tickInterval

def retryLimitField := settingField "retry_limit" Shape.uint32 defaults.retryLimit

def retryDelayField := settingField "retry_delay_secs" Shape.uint64 defaults.retryDelay

def eventRetryDelayField :=
  settingField "event_retry_delay_ms" Shape.uint64 defaults.eventRetryDelay

def maxEventRetriesField := settingField "max_event_retries" Shape.uint32 defaults.maxEventRetries

def maxPendingRetriesField :=
  settingField "max_pending_retries" Shape.size defaults.maxPendingRetries

/-- The settings that a draft describes. -/
def shape : Shape AgentSettings := fun d ↦ do
  let fields ← d.record "AgentConfig"
    [debounceWindowField.slot, forceWindowField.slot, tickIntervalField.slot, retryLimitField.slot,
      retryDelayField.slot, eventRetryDelayField.slot, maxEventRetriesField.slot,
      maxPendingRetriesField.slot]
  return {
    debounceWindow := ← fields.get debounceWindowField
    forceWindow := ← fields.get forceWindowField
    tickInterval := ← fields.get tickIntervalField
    retryLimit := ← fields.get retryLimitField
    retryDelay := ← fields.get retryDelayField
    eventRetryDelay := ← fields.get eventRetryDelayField
    maxEventRetries := ← fields.get maxEventRetriesField
    maxPendingRetries := ← fields.get maxPendingRetriesField }

/-- The settings as JSON. -/
def toJson (s : AgentSettings) : Json :=
  .object [
    ("debounce_window_ms", .int s.debounceWindow.toNat),
    ("event_retry_delay_ms", .int s.eventRetryDelay.toNat),
    ("force_window_ms", .int s.forceWindow.toNat),
    ("max_event_retries", .int s.maxEventRetries.toNat),
    ("max_pending_retries", .int s.maxPendingRetries),
    ("retry_delay_secs", .int s.retryDelay.toNat),
    ("retry_limit", .int s.retryLimit.toNat),
    ("tick_interval_ms", .int s.tickInterval.toNat)]

end AgentSettings

namespace CommitSettings

def defaults : CommitSettings := {}

def segmentSizeField := settingField "segment_size" Shape.size defaults.segmentSize

def channelCapacityField := settingField "channel_capacity" Shape.size defaults.channelCapacity

/-- The settings that a draft describes. -/
def shape : Shape CommitSettings := fun d ↦ do
  let fields ← d.record "CommiterConfig" [segmentSizeField.slot, channelCapacityField.slot]
  return {
    segmentSize := ← fields.get segmentSizeField
    channelCapacity := ← fields.get channelCapacityField }

/-- The settings as JSON. -/
def toJson (s : CommitSettings) : Json :=
  .object [("channel_capacity", .int s.channelCapacity), ("segment_size", .int s.segmentSize)]

end CommitSettings

namespace TlsSettings

def defaults : TlsSettings := {}

def perStageField := settingField "per_stage_tree" Shape.bool defaults.perStage

/-- The settings that a draft describes. -/
def shape : Shape TlsSettings := fun d ↦ do
  let fields ← d.record "TlsConfig" [perStageField.slot]
  return { perStage := ← fields.get perStageField }

/-- The settings as JSON. -/
def toJson (s : TlsSettings) : Json :=
  .object [("per_stage_tree", .bool s.perStage)]

end TlsSettings

namespace RegistrySettings

def seedFileField := settingField "seed_file" (fun d ↦ some <$> Shape.text d) none

/-- The settings that a draft describes. -/
def shape : Shape RegistrySettings := fun d ↦ do
  let fields ← d.record "RegistryConfig" [seedFileField.slot]
  return { seedFile := ← fields.get seedFileField }

/-- The settings as JSON. -/
def toJson (s : RegistrySettings) : Json :=
  .object [("seed_file", (s.seedFile.map Json.string).getD .null)]

end RegistrySettings

namespace OutputSettings

def defaults : OutputSettings := {}

def directoryField := settingField "output_dir" Shape.text defaults.directory

/-- The settings that a draft describes. -/
def shape : Shape OutputSettings := fun d ↦ do
  let fields ← d.record "SynchronizerConfig" [directoryField.slot]
  return { directory := ← fields.get directoryField }

/-- The settings as JSON. -/
def toJson (s : OutputSettings) : Json :=
  .object [("output_dir", .string s.directory)]

end OutputSettings

namespace LogSettings

def defaults : LogSettings := {}

def levelField := settingField "log_level" Shape.text defaults.level

def formatField := settingField "log_format" Shape.text defaults.format

/-- The settings that a draft describes. -/
def shape : Shape LogSettings := fun d ↦ do
  let fields ← d.record "ObservabilityConfig" [levelField.slot, formatField.slot]
  return { level := ← fields.get levelField, format := ← fields.get formatField }

/-- The settings as JSON. -/
def toJson (s : LogSettings) : Json :=
  .object [("log_format", .string s.format), ("log_level", .string s.level)]

/-- The filter that a level stands for; what names a target already is a filter of its own. -/
def directive (s : LogSettings) : String :=
  if s.level.toList.contains '=' then s.level else "gateway_operator=" ++ s.level

end LogSettings

namespace Settings

def agentField := settingField "agent" AgentSettings.shape {}

def commitField := settingField "commiter" CommitSettings.shape {}

def tlsField := settingField "tls" TlsSettings.shape {}

def registryField := settingField "registry" RegistrySettings.shape {}

def outputField := settingField "synchronizer" OutputSettings.shape {}

def logField := settingField "observability" LogSettings.shape {}

/-- The settings that a draft describes. -/
def shape : Shape Settings := fun d ↦ do
  let fields ← d.record "OperatorConfig"
    [agentField.slot, commitField.slot, tlsField.slot, registryField.slot, outputField.slot,
      logField.slot]
  return {
    agent := ← fields.get agentField
    commit := ← fields.get commitField
    tls := ← fields.get tlsField
    registry := ← fields.get registryField
    output := ← fields.get outputField
    log := ← fields.get logField }

/-- The settings as JSON. -/
def toJson (s : Settings) : Json :=
  .object [
    ("agent", s.agent.toJson),
    ("commiter", s.commit.toJson),
    ("observability", s.log.toJson),
    ("registry", s.registry.toJson),
    ("synchronizer", s.output.toJson),
    ("tls", s.tls.toJson)]

end Settings

end StageRelay
