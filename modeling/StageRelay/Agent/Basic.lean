import StageRelay.Commit.Basic
import StageRelay.Index.Directory
import StageRelay.RetryQueue
import StageRelay.Settings.Basic

/-!
# The agent

The agent hears of changes. A change of a stage makes the stage wait; one that concerns certificates
first brings the index up to date and makes the stage wait only if what is served changed. What
fails is tried again later. At every tick the stages that are due leave in a batch.

Whatever the agent does ends with a batch to send, which may be empty.
-/

namespace StageRelay

/-- What the agent keeps: the certificates, and the notices to handle again. -/
structure AgentState where
  directory : IndexDirectory
  retries : RetryQueue
deriving Repr

/-- Why the agent fails at something. -/
inductive AgentError where
  | watchExhausted (attempts : Nat)
  | leadershipLost
  | registry (e : RegistryError)
  | certificate (e : CertificateError)
  | decode (f : Fault)
  | commit (e : CommitError)
  | sync (e : SyncError)
deriving DecidableEq, Repr

/-- The text of an error, unless it depends on where a certificate is broken. -/
def AgentError.message? : AgentError → Option String
  | .watchExhausted attempts =>
    some ("Registry watch could not be established after " ++ toString attempts ++ " attempts")
  | .leadershipLost => some "Leadership lost"
  | .registry e => some ("Registry error: " ++ e.message)
  | .certificate e => e.message?.map ("Certificate error: " ++ ·)
  | .decode f => some ("Failed to decode resource: " ++ f.message)
  | .commit e => some ("Commit error: " ++ e.message)
  | .sync e => some ("Sync error: " ++ e.message)

namespace AgentState

/-- The state at the start. -/
def start (s : AgentSettings) (perStage : Bool) : AgentState where
  directory := .empty perStage
  retries := { capacity := s.maxPendingRetries, delay := s.eventRetryDelay.toNat }

end AgentState

namespace Agent

/-- Work of the agent, which may change what it keeps. -/
abbrev Work (α : Type) : Type 1 := StateT AgentState Job α

/-- Calls on a service. -/
def ask {β : Type} (c : Call β) : Work β :=
  StateT.lift (Job.ask c)

/-- Takes a measure. -/
def note (m : Measure) : Work Unit :=
  ask (.note m)

/-! ## Certificates -/

/-- Work of the agent that can fail. What it did before it failed is kept. -/
abbrev Attempt (α : Type) : Type 1 := ExceptT AgentError (StateT AgentState Job) α

/-- Calls on a service as a part of an attempt. -/
def attempt {β : Type} (c : Call β) : Attempt β :=
  ExceptT.lift (ask c)

/-- The outcome of a part that can fail. -/
def orThrow {ε α : Type} (wrap : ε → AgentError) : Except ε α → Attempt α
  | .ok a => return a
  | .error e => throw (wrap e)

/-- The resource of a kind and key, if there is one. -/
def find? (kind : Kind) (key : ResourceKey) : Attempt (Option Resource) := do
  match ← attempt (.get kind key) with
  | .ok r => return some r
  | .error (.notFound _ _) => return none
  | .error e => throw (.registry e)

/-- Makes a stage wait. -/
def postpone (stage : Stage) : Attempt Unit :=
  attempt (.postpone stage)

/-- Asks for the index of a stage. -/
def touch (stage : Stage) : Attempt Unit :=
  modify fun a ↦ { a with directory := a.directory.touch stage }

/-- Stores a certificate in the index of a stage and tells whether what is served changed. -/
def store (stage : Stage) (key : ResourceKey) (c : Certificate) : Attempt Bool := do
  let a ← get
  let (changed, x) := (a.directory.get stage).insert key c
  set { a with directory := a.directory.set stage x }
  orThrow .certificate changed

/-- Takes a certificate out of the index of a stage and tells whether it was there. -/
def withdraw (stage : Stage) (key : ResourceKey) : Attempt Bool := do
  let a ← get
  let (changed, x) := (a.directory.get stage).erase key
  set { a with directory := a.directory.set stage x }
  return changed

/-- Makes a stage wait if something changed. -/
def postponeIf (changed : Bool) (stage : Stage) : Attempt Unit :=
  if changed then postpone stage else return ()

/-- Indexes the certificate of a TLS binding: that of its secret, for the names of the binding. -/
def indexBinding (stage : Stage) (key : ResourceKey) : Attempt Unit := do
  touch stage
  match ← find? .tlsBinding key with
  | none => postponeIf (← withdraw stage key.ofBinding) stage
  | some r =>
    let binding ← orThrow .decode r.tlsBinding
    if binding.snis.isEmpty then return ()
    let changed ← match ← find? .secret ⟨stage, binding.secretRef⟩ with
      | none => withdraw stage key.ofBinding
      | some secret => do
        let data ← orThrow .decode secret.secretData
        store stage key.ofBinding ((Certificate.ofSecret data).pin binding.snis)
    postponeIf changed stage

/-- Whether a resource is a TLS binding of a secret. -/
def refersTo (secret : String) (r : Resource) : Bool :=
  match r.tlsBinding with
  | .ok binding => binding.secretRef = secret
  | .error _ => false

/-- Indexes every TLS binding of a secret. -/
def indexBindingsOf (stage : Stage) (secret : String) : Attempt Unit := do
  let bindings ← orThrow .registry (← attempt (.list .tlsBinding stage))
  (bindings.filter (refersTo secret)).forM fun r ↦ indexBinding stage r.key

/-- Indexes the certificate of a secret, and then those of its TLS bindings. -/
def indexSecret (stage : Stage) (key : ResourceKey) : Attempt Unit := do
  touch stage
  let changed ← match ← find? .secret key with
    | none => withdraw stage key
    | some r => do
      let data ← orThrow .decode r.secretData
      store stage key (.ofSecret data)
  postponeIf changed stage
  indexBindingsOf stage key.name

/-- Every stage of the registry. -/
def allStages : Attempt (List Stage) := do
  orThrow .registry (← attempt .stages)

/-- Handles a notice that concerns certificates or all stages, unless it was tried too often. -/
def handleCertificates (most : UInt32) (n : Notice) : Attempt (List Stage) := do
  if most < n.retries then
    ExceptT.lift (note (.retry .exhausted))
    return []
  match n.kind with
  | .secret =>
    indexSecret n.stage n.key
    return []
  | .tlsBinding =>
    indexBinding n.stage n.key
    return []
  | _ => allStages

/-! ## Changes -/

/-- What is left to do after the agent handled something. -/
inductive Handled where
  | batch (stages : List Stage)
  | crashed
deriving DecidableEq, Repr

/-- Handles a notice again later. -/
def retryLater (n : Notice) : Work Handled := do
  if n.retries.toNat + 1 = UInt32.size then return .crashed
  let now ← ask .clock
  let a ← get
  match a.retries.push now { n with retries := n.retries + 1 } with
  | .accepted q =>
    set { a with retries := q }
    note (.retry .scheduled)
    return .batch []
  | .full =>
    note (.retry .dropped)
    return .batch []
  | .beyond => return .crashed

/-- Handles a notice. -/
def handle (most : UInt32) (n : Notice) : Work Handled := do
  note (.received n.kind)
  if n.kind = .gatewayInstance then return .batch []
  else if n.isAll || n.kind.isCertificate then
    match ← (handleCertificates most n).run with
    | .ok stages => return .batch stages
    | .error _ => retryLater n
  else
    ask (.postpone n.stage)
    return .batch []

/-! ## Ticks and starts -/

/-- The batch of a tick. If all stages are due the registry tells which there are; if it does not,
all stages go on waiting and the others that are due leave. -/
def tick : Work (List Stage) := do
  let due ← ask .drain
  if due.any Stage.isAll then
    match ← ask .stages with
    | .ok stages => return stages
    | .error _ =>
      ask (.postpone Stage.all)
      return due.filter fun s ↦ !s.isAll
  else return due

/-- Withdraws what is left of stages that are gone, and commits every other stage without
a report. -/
def bootstrap : Attempt (List Stage) := do
  let stages := (← allStages).map Stage.withoutReport
  orThrow .sync (← attempt (.prune (stages.map Stage.key)))
  modify fun a ↦ { a with directory := a.directory.prune stages }
  return stages

end Agent

end StageRelay
