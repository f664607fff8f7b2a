import StageRelay.Agent.Basic
import StageRelay.CommitChannel
import StageRelay.Pipeline.Services

/-!
# The pipeline

The agent and the committer on one clock. The agent sends batches through the commit channel, and
the committer takes them from it; both may make a stage wait.
-/

namespace StageRelay

/-- What the agent was doing when it sent a batch. `watch?` is the watch it goes back to, if it
runs. -/
inductive Errand where
  | notice (n : Notice) (watch? : Option Nat)
  | tick (watch? : Option Nat)
  /-- The start after a watch was opened at some attempt. -/
  | bootstrap (watch attempt : Nat)
deriving DecidableEq, Repr

/-- What the agent is doing. -/
inductive Phase where
  /-- It does not run, but may be called. -/
  | idle
  | watching (watch : Nat)
  /-- The batch does not fit into the channel. -/
  | sending (batch : List Stage) (errand : Errand)
  /-- The next attempt to open a watch is made at a time. -/
  | reopening (attempt time : Nat)
  | stopped
  | failed (e : AgentError)
  | crashed
deriving DecidableEq, Repr

/-- The agent, the committer, and what lies between and around them. -/
structure Pipeline where
  services : Services
  settings : AgentSettings
  segmentSize : Nat
  agent : AgentState
  channel : CommitChannel
  phase : Phase := .idle
  /-- The time of the next tick, once there was a watch. -/
  nextTick? : Option Nat := none
  /-- Whether the committer runs. -/
  committing : Bool := false
  /-- The segments of the batch that is being committed. -/
  segments : List (List Stage) := []
  isShutDown : Bool := false
  leaderLost : Bool := false
deriving Repr

/-- The stages that wait at the start: none. -/
def Debouncer.ofSettings (s : AgentSettings) : Debouncer :=
  { debounce := s.debounceWindow.toNat, force := s.forceWindow.toNat }

namespace Pipeline

/-- The time. -/
def now (p : Pipeline) : Nat := p.services.now

/-- Lets a job run. -/
def run {α : Type} (p : Pipeline) (j : Job α) : α × Pipeline :=
  let (a, services) := j.run Services.host p.services
  (a, { p with services })

/-- Lets the agent work. -/
def perform {α : Type} (p : Pipeline) (w : Agent.Work α) : α × Pipeline :=
  let ((a, agent), p) := p.run (w.run p.agent)
  (a, { p with agent })

/-- Changes the registry. -/
def withRegistry (p : Pipeline) (f : Registry → Registry) : Pipeline :=
  { p with services := { p.services with registry := f p.services.registry } }

/-- Ends a watch. Nobody receives from a watch that the agent has cancelled, so it does not matter
when the registry lets go of it. -/
def cancel (p : Pipeline) (watch : Nat) : Pipeline :=
  p.withRegistry fun r ↦ (r.cancel watch).release watch

/-- The agent in a phase. -/
def enter (p : Pipeline) (phase : Phase) : Pipeline :=
  { p with phase }

/-! ## Errands -/

/-- Where the agent goes back to. -/
def back : Option Nat → Phase
  | some watch => .watching watch
  | none => .idle

/-- Goes on after an attempt to open a watch that failed. -/
def attemptFailed (p : Pipeline) (attempt : Nat) : Pipeline :=
  if attempt < p.settings.attempts then
    p.enter (.reopening (attempt + 1) (p.now + p.settings.retryDelayMillis))
  else p.enter (.failed (.watchExhausted p.settings.attempts))

/-- Goes on after a batch was sent. With the first watch the ticks begin; without a time between
them there can be none. -/
def finish (p : Pipeline) : Errand → Pipeline
  | .notice _ watch? => p.enter (back watch?)
  | .tick watch? => p.enter (back watch?)
  | .bootstrap watch _ =>
    if p.nextTick?.isSome then p.enter (.watching watch)
    else if p.settings.tickInterval = 0 then p.enter .crashed
    else { p with phase := .watching watch, nextTick? := some p.now }

/-- Goes on after a batch was refused, because nobody takes batches any more. -/
def abandon (p : Pipeline) : Errand → Pipeline
  | .notice n watch? =>
    match p.perform (Agent.retryLater n) with
    | (.batch _, p) => p.enter (back watch?)
    | (.crashed, p) => p.enter .crashed
  | .tick watch? => p.enter (back watch?)
  | .bootstrap watch attempt => (p.cancel watch).attemptFailed attempt

/-- Sends a batch, or waits for room in the channel. -/
def send (p : Pipeline) (batch : List Stage) (errand : Errand) : Pipeline :=
  match p.channel.send batch with
  | .sent channel => { p with channel }.finish errand
  | .full => p.enter (.sending batch errand)
  | .closed => p.abandon errand

/-- Handles a notice. -/
def handle (p : Pipeline) (n : Notice) (watch? : Option Nat) : Pipeline :=
  match p.perform (Agent.handle p.settings.maxEventRetries n) with
  | (.batch batch, p) => p.send batch (.notice n watch?)
  | (.crashed, p) => p.enter .crashed

/-- Lets the stages that are due leave. -/
def tick (p : Pipeline) (watch? : Option Nat) : Pipeline :=
  let (batch, p) := p.perform Agent.tick
  p.send batch (.tick watch?)

/-- Opens a watch and starts afresh. -/
def openWatch (p : Pipeline) (attempt : Nat) : Pipeline :=
  match p.run (.ask .watch) with
  | (.error _, p) => p.attemptFailed attempt
  | (.ok watch, p) =>
    match p.perform Agent.bootstrap.run with
    | (.ok batch, p) => p.send batch (.bootstrap watch attempt)
    | (.error _, p) => (p.cancel watch).attemptFailed attempt

/-! ## Calls from outside -/

/-- Starts afresh without a watch. -/
def bootstrap (p : Pipeline) : Except AgentError Unit × Pipeline :=
  match p.perform Agent.bootstrap.run with
  | (.error e, p) => (.error e, p)
  | (.ok batch, p) =>
    match p.channel.send batch with
    | .sent channel => (.ok (), { p with channel })
    | .full => (.ok (), p)
    | .closed => (.error (.commit .channelClosed), p)

/-- Sends a batch past the agent; a batch that does not fit is not sent. -/
def force (p : Pipeline) (batch : List Stage) : Except CommitError Unit × Pipeline :=
  match p.channel.send batch with
  | .sent channel => (.ok (), { p with channel })
  | .full => (.ok (), p)
  | .closed => (.error .channelClosed, p)

/-- Makes a stage wait. -/
def postpone (p : Pipeline) (stage : Stage) : Pipeline :=
  { p with services := p.services.postpone stage }

/-- Takes out the batches that wait. -/
def takeBatches (p : Pipeline) : List (List Stage) × Pipeline :=
  (p.channel.batches, { p with channel := { p.channel with batches := [] } })

/-- Takes the log and what was counted. -/
def takeLog (p : Pipeline) : (List (Nat × Deed) × Measures) × Pipeline :=
  let (log, services) := p.services.takeLog
  (log, { p with services })

end Pipeline

end StageRelay
