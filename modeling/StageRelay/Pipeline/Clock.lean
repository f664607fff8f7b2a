import StageRelay.Pipeline.Basic

/-!
# The pipeline in time

At every instant the agent does what it can, always the first of: stopping, a notice, a notice that
comes back, a tick. When it has nothing to do, or no room for a batch, the committer goes on by one
segment. Time moves to the next instant at which there is something to do.
-/

namespace StageRelay.Pipeline

/-! ## Steps -/

/-- How late a tick may be without moving those after it, in milliseconds. -/
def tickTolerance : Nat := 5

/-- The tick after one that was due at a time. -/
def tickAfter (interval due now : Nat) : Nat :=
  if due + tickTolerance < now then now + interval else due + interval

/-- Lets the agent tick, if a tick is due. -/
def tickStep? (p : Pipeline) (watch : Nat) : Option Pipeline := do
  let due ← p.nextTick?
  if p.now < due then none
  let next := tickAfter p.settings.tickInterval.toNat due p.now
  return { p with nextTick? := some next }.tick watch

/-- What the agent does next on its watch. -/
def watchStep? (p : Pipeline) (watch : Nat) : Option Pipeline :=
  if p.isShutDown then some ((p.cancel watch).enter .stopped)
  else if p.leaderLost then some ((p.cancel watch).enter (.failed .leadershipLost))
  else
    match p.services.registry.receive watch with
    | .notice n rest => some ((p.withRegistry fun r ↦ r.setWatch watch rest).handle n watch)
    | .closed => some ((p.cancel watch).openWatch 1)
    | .waiting =>
      match p.agent.retries.pop? p.now with
      | some (n, retries) => some ({ p with agent := { p.agent with retries } }.handle n watch)
      | none => p.tickStep? watch

/-- What the agent does next, if there is anything to do. -/
def agentStep? (p : Pipeline) : Option Pipeline :=
  match p.phase with
  | .watching watch => p.watchStep? watch
  | .reopening attempt time =>
    if p.isShutDown then some (p.enter .stopped)
    else if time ≤ p.now then some (p.openWatch attempt)
    else none
  | .sending batch errand =>
    match p.channel.send batch with
    | .full => none
    | _ => some (p.send batch errand)
  | _ => none

/-- What the committer does next, if there is anything to do. -/
def committerStep? (p : Pipeline) : Option Pipeline :=
  match p.segments with
  | segment :: segments => some ({ p with segments }.run (Commit.commitSegment segment)).2
  | [] =>
    if !p.committing then none
    else if p.isShutDown then some { p with committing := false, channel := p.channel.close }
    else
      p.channel.receive?.map fun (batch, channel) ↦
        { p with channel, segments := Commit.segments p.segmentSize batch }

/-- What happens next at this instant. -/
def step? (p : Pipeline) : Option Pipeline :=
  p.agentStep?.or p.committerStep?

/-! ## Instants -/

/-- The notices that wait on a watch. -/
def buffered (p : Pipeline) : Nat :=
  p.services.registry.watches.foldr (fun w n ↦ w.buffer.length + n) 0

/-- How many steps an instant takes at most. Every notice may come back as often as it is tried,
every tick and every attempt to open a watch counts, and each of them sends at most one batch. -/
def load (p : Pipeline) : Nat :=
  let ticks := match p.nextTick? with
    | some due => (p.now - due) / p.settings.tickInterval.toNat + 1
    | none => 1
  let errands := p.buffered + p.agent.retries.size + ticks + p.settings.attempts + 1
  let stages := p.services.registry.store.size + p.services.debouncer.size + 4
  let queued := p.channel.batches.foldr (fun b n ↦ b.length + 2 + n) (p.segments.length + 4)
  errands * (p.settings.maxEventRetries.toNat + 2) * stages + queued

/-- Takes at most some steps. -/
def steps : Nat → Pipeline → Pipeline
  | 0, p => p
  | fuel + 1, p =>
    match p.step? with
    | some q => steps fuel q
    | none => p

/-- Does everything that is to be done at this instant. -/
def settle (p : Pipeline) : Pipeline :=
  steps p.load p

/-- The next time at which the agent has something to do. -/
def nextTime? (p : Pipeline) : Option Nat :=
  match p.phase with
  | .watching _ =>
    match p.nextTick?, p.agent.retries.first?.map Delayed.due with
    | some t, some u => some (min t u)
    | t?, u? => t?.or u?
  | .reopening _ time => some time
  | _ => none

/-- Moves the clock. -/
def setTime (p : Pipeline) (t : Nat) : Pipeline :=
  { p with services := { p.services with now := t } }

/-- Moves the clock to a time through at most some instants. -/
def runTo (t : Nat) : Nat → Pipeline → Pipeline
  | 0, p => p.setTime t
  | fuel + 1, p =>
    match p.nextTime? with
    | some u => if u ≤ t then runTo t fuel (p.setTime (max u p.now)).settle else p.setTime t
    | none => p.setTime t

/-- Lets some time pass. -/
def advance (p : Pipeline) (millis : Nat) : Pipeline :=
  let p := p.settle
  runTo (p.now + millis) (millis + 1) p

/-- Starts the agent and the committer. -/
def start (p : Pipeline) : Pipeline :=
  { p with committing := true }.openWatch 1

end StageRelay.Pipeline
