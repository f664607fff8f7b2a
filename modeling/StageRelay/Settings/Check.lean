import StageRelay.Settings.Basic
import StageRelay.Text.Split

/-!
# Checking settings

Settings that no pipeline could run with are refused, and every reason is given.
-/

namespace StageRelay

/-- Why settings are refused. -/
structure Complaint where
  field : String
  message : String
deriving DecidableEq, Repr

/-- The text of a complaint. -/
def Complaint.text (c : Complaint) : String :=
  c.field ++ ": " ++ c.message

/-- The text of all complaints. -/
def Complaint.summary (cs : List Complaint) : String :=
  "Validation failed: "
    ++ String.ofList (Text.joinWith ", ".toList (cs.map fun c ↦ c.text.toList))

namespace Settings

/-- The formats of log lines. -/
def logFormats : List String := ["pretty", "compact"]

/-- A complaint about a field, if there is reason for it. -/
def complain (reason : Bool) (field message : String) : List Complaint :=
  if reason then [⟨field, message⟩] else []

/-- Everything that is wrong with settings. -/
def complaints (s : Settings) : List Complaint :=
  let zero := "must be greater than 0"
  let none := "must be at least 1"
  complain (s.agent.debounceWindow = 0) "agent.debounce_window_ms" zero
    ++ complain (s.agent.forceWindow = 0) "agent.force_window_ms" zero
    ++ complain (s.agent.tickInterval = 0) "agent.tick_interval_ms" zero
    ++ complain (s.agent.eventRetryDelay = 0) "agent.event_retry_delay_ms" zero
    ++ complain (s.agent.forceWindow < s.agent.debounceWindow) "agent.force_window_ms"
      ("must be at least agent.debounce_window_ms ("
        ++ toString s.agent.debounceWindow.toNat ++ ")")
    ++ complain (s.agent.retryLimit = 0) "agent.retry_limit" none
    ++ complain (s.agent.maxPendingRetries = 0) "agent.max_pending_retries" none
    ++ complain (s.commit.segmentSize = 0) "commiter.segment_size" none
    ++ complain (s.commit.channelCapacity = 0) "commiter.channel_capacity" none
    ++ complain (!logFormats.contains s.log.format) "observability.log_format"
      ("unknown format '" ++ s.log.format ++ "'")

end Settings

end StageRelay
