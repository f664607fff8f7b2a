import StageRelay.Work.Basic

/-!
# Commits

The configuration of a stage is made from what the registry holds now; a stage that is gone gets the
empty one. Batches are committed in segments, and every segment is flushed once, after all its
stages. Whatever fails puts its stage back among those that wait.
-/

namespace StageRelay

/-- Why a commit fails. -/
inductive CommitError where
  | stageNotFound (stage : Stage)
  | registry (e : RegistryError)
  | convert (e : ConvertError)
  | sync (e : SyncError)
  /-- Nobody takes batches any more. -/
  | channelClosed
deriving DecidableEq, Repr

/-- The text of an error. -/
def CommitError.message : CommitError → String
  | .stageNotFound stage => "Stage " ++ stage.key ++ " not found"
  | .registry e => "Registry error: " ++ e.message
  | .convert e => "Conversion error: " ++ e.message
  | .sync e => "Sync error: " ++ e.message
  | .channelClosed => "Commit channel closed"

/-- How a commit ends that does not succeed. -/
inductive CommitFailure where
  | error (e : CommitError)
  | crashed
deriving DecidableEq, Repr

/-- The reason that is reported. -/
def CommitFailure.reason : CommitFailure → String
  | .error e => e.message
  | .crashed => "commit task panicked"

namespace Commit

/-- A job that can fail. -/
abbrev Attempt (α : Type) : Type 1 := ExceptT CommitFailure Job α

/-- Calls on a service as a part of an attempt. -/
def attempt {β : Type} (c : Call β) : Attempt β :=
  ExceptT.lift (Job.ask c)

/-- The resources of a stage of some kinds. -/
def resourcesOf (stage : Stage) (kinds : List Kind) : Attempt StageResources :=
  kinds.foldlM (fun all kind ↦ do
    match ← attempt (.list kind stage) with
    | .ok listed => return all.extend kind listed
    | .error e => throw (.error (.registry e))) {}

/-- The configuration of a stage as the registry has it. The object of a stage is named like it. -/
def build (stage : Stage) : Attempt Configuration := do
  match ← attempt (.get .stage ⟨stage, stage.name⟩) with
  | .ok _ =>
    match ← attempt (.convert stage (← resourcesOf stage Kind.stageScoped)) with
    | .configuration c => return c
    | .refused e => throw (.error (.convert e))
    | .crashed => throw .crashed
  | .error (.notFound _ _) => throw (.error (.stageNotFound stage))
  | .error e => throw (.error (.registry e))

/-- The configuration to publish for a stage, and what publishing it amounts to. -/
def toPublish (stage : Stage) : Job (Except CommitFailure (Configuration × CommitOutcome)) := do
  match ← (build stage).run with
  | .ok c => return .ok (c, .synced)
  | .error (.error (.stageNotFound _)) =>
    return .ok (.empty stage.gateway stage.name, .deleted)
  | .error e => return .error e

/-- Puts a stage back among those that wait. -/
def requeue (stage : Stage) : Job Unit :=
  .ask (.postpone stage.forRetry)

/-- Ends a commit with an error. -/
def fail (stage : Stage) (e : CommitError) : Job (Except CommitFailure Unit) := do
  .note (.committed .failed)
  requeue stage
  return .error (.error e)

/-- Commits a stage without a flush. A crash is left to whoever waits for the end of the commit. -/
def commitStage (stage : Stage) : Job (Except CommitFailure Unit) := do
  match ← toPublish stage with
  | .error .crashed => return .error .crashed
  | .error (.error e) => fail stage e
  | .ok (c, outcome) =>
    match ← .ask (.sync stage.gateway stage.name c) with
    | .error e => fail stage (.sync e)
    | .ok () =>
      .note (.committed outcome)
      return .ok ()

/-- Reports an outcome, unless the stage wants none reported. -/
def report (stage : Stage) (status : ReleaseStatus) : Job Unit :=
  if stage.context.skipReport then return () else .ask (.report stage status)

/-- A commit that has ended. -/
structure Ended where
  stage : Stage
  result : Except CommitFailure Unit

namespace Ended

/-- Whether a commit succeeded. -/
def isOk (e : Ended) : Bool :=
  e.result.isOk

end Ended

/-- Takes note of the end of a commit. A stage whose commit crashed is put back. -/
def join (stage : Stage) (result : Except CommitFailure Unit) : Job Ended := do
  match result with
  | .error .crashed =>
    .note (.committed .failed)
    requeue stage
    return ⟨stage, result⟩
  | _ => return ⟨stage, result⟩

/-- Publishes what the commits of a segment buffered, and reports those that succeeded. -/
def flush (committed : List Stage) : Job Unit := do
  match ← .ask .flush with
  | .ok () =>
    .note (.flushed true)
    committed.forM fun s ↦ report s .succeeded
  | .error e =>
    .note (.flushed false)
    committed.forM fun s ↦ do
      requeue s
      report s (.failed e.message)

/-- Reports the commits that failed. -/
def reportFailed (ended : List Ended) : Job Unit :=
  ended.forM fun e ↦
    match e.result with
    | .ok () => return ()
    | .error f => report e.stage (.failed f.reason)

/-- Ends a segment whose commits have ended. -/
def endSegment (ended : List Ended) : Job Unit := do
  flush ((ended.filter Ended.isOk).map Ended.stage)
  reportFailed ended

/-- The stages of a segment that are committed: all but the one that stands for all stages. -/
def committable (segment : List Stage) : List Stage :=
  segment.filter fun s ↦ !s.isAll

/-- Commits a segment, one stage after the other. -/
def commitSegment (segment : List Stage) : Job Unit :=
  match committable segment with
  | [] => return ()
  | stages => do endSegment (← stages.mapM fun s ↦ do join s (← commitStage s))

/-- A batch in segments of a size, which is at least one. -/
def segments (size : Nat) : List Stage → List (List Stage)
  | [] => []
  | s :: rest => (s :: rest.take (size - 1)) :: segments size (rest.drop (size - 1))
termination_by batch => batch.length
decreasing_by simp only [List.length_drop, List.length_cons]; omega

/-- Commits a batch. -/
def commitBatch (size : Nat) (batch : List Stage) : Job Unit :=
  (segments size batch).forM commitSegment

end Commit

end StageRelay
