import StageRelay.Dict
import StageRelay.Resource.Kind

/-!
# Measures

What is counted, and the number of stages that wait.
-/

namespace StageRelay

/-- What becomes of a notice whose handling failed. -/
inductive RetryOutcome where
  | scheduled
  | dropped
  | exhausted
deriving DecidableEq, Repr

/-- The word for an outcome. -/
def RetryOutcome.text : RetryOutcome → String
  | .scheduled => "scheduled"
  | .dropped => "dropped"
  | .exhausted => "exhausted"

/-- How the commit of a stage ends. -/
inductive CommitOutcome where
  | synced
  /-- The stage is gone and its configuration was withdrawn. -/
  | deleted
  | failed
deriving DecidableEq, Repr

/-- The word for an outcome. -/
def CommitOutcome.text : CommitOutcome → String
  | .synced => "synced"
  | .deleted => "deleted"
  | .failed => "failed"

/-- What is counted or measured. -/
inductive Measure where
  /-- A notice was received. -/
  | received (kind : Kind)
  | retry (outcome : RetryOutcome)
  | committed (outcome : CommitOutcome)
  | flushed (ok : Bool)
  /-- So many stages wait. -/
  | waiting (stages : Nat)
deriving DecidableEq, Repr

/-- The name of a series with one label. -/
def series (name label value : String) : String :=
  name ++ "\x7b" ++ label ++ "=" ++ value ++ "\x7d"

/-- Counts by series, and the last number of waiting stages if it was measured. -/
structure Measures where
  counts : Dict Nat := []
  waiting? : Option Nat := none
deriving DecidableEq, Repr

namespace Measures

/-- The name of the number of waiting stages. -/
def waitingName : String := "operator_pending_stages"

/-- Counts one more in a series. -/
def count (ms : Measures) (name : String) : Measures :=
  { ms with counts := ms.counts.insert name ((ms.counts.find? name).getD 0 + 1) }

/-- Takes a measure. -/
def note (ms : Measures) : Measure → Measures
  | .received kind => ms.count (series "operator_events_total" "kind" kind.name)
  | .retry outcome => ms.count (series "operator_event_retries_total" "outcome" outcome.text)
  | .committed outcome => ms.count (series "operator_commits_total" "result" outcome.text)
  | .flushed ok =>
    ms.count (series "operator_flushes_total" "result" (if ok then "ok" else "error"))
  | .waiting n => { ms with waiting? := some n }

end Measures

end StageRelay
