import StageRelay.CommitChannel
import StageRelay.Proofs.Agent.Handlers
import StageRelay.Proofs.Agent.Opening
import StageRelay.Proofs.Agent.Tick
import StageRelay.Proofs.Cancellation

/-!
# Lives of agents

The life of an agent from its start to its end, step by step. A step is a single call, a batch that
is sent, or a decision about what to do next; in between time passes, and others make and cancel
tokens. Calls may be answered in any way, the watch may break and the channel be closed at any time.

An agent looks at the tokens only when it decides what to do next: while it waits for something to
do it stops for a shutdown and for the loss of leadership, while it waits for the next attempt to
open a watch it stops for a shutdown.
-/

namespace StageRelay

/-- The clock tells the time; any other call may be answered in any way. -/
def Call.Tells (now : Nat) {β : Type} (c : Call β) (b : β) : Prop :=
  match c, b with
  | .clock, t => t = now
  | _, _ => True

namespace Life

/-! ## What happens -/

/-- What the agent does to others: a call, or a batch that the channel takes or refuses. -/
inductive Act : Type 1 where
  | called (a : Answered)
  | sent (batch : List Stage) (accepted : Bool) (time : Nat)

/-- What a piece of work is about. -/
inductive Task where
  /-- An attempt to open a watch, with the token that was made for it. -/
  | opening (attempt token : Nat)
  /-- A notice, with the number of the notice that was received at first. -/
  | handling (number : Nat) (n : Notice)
  | ticking

/-- A piece of work: when it was begun, and what was done since. -/
structure Piece : Type 1 where
  task : Task
  began : Nat
  acts : List Act := []

/-- Adds to what was done. -/
def Piece.add (w : Piece) (acts : List Act) : Piece :=
  { w with acts := w.acts ++ acts }

/-- A piece of work that is over. -/
structure Finished : Type 1 where
  piece : Piece
  ended : Nat
  ok : Bool

/-- What happens in a life. -/
inductive Event : Type 1 where
  | act (a : Act)
  /-- The watch is given up and opened anew. -/
  | rebuilding
  | begun (w : Piece)
  | finished (f : Finished)
  | returned (r : Except AgentError Unit)

/-! ## States -/

/-- Work that is left to do. -/
abbrev Rest : Type 1 := Job (Except AgentError Agent.Handled × AgentState)

/-- The number of the notice that a piece of work is about. -/
def Task.number? : Task → Option Nat
  | .handling number _ => some number
  | _ => none

/-- Whether a piece of work is an attempt to open a watch. -/
def Task.isOpening : Task → Bool
  | .opening _ _ => true
  | _ => false

/-- The work of queueing a notice again. -/
def later (n : Notice) (a : AgentState) : Rest :=
  ((Agent.retryLater n).run a).bind fun (h, a) ↦ .done (.ok h, a)

/-- The work that a task takes. -/
def Task.job (most : UInt32) (a : AgentState) : Task → Rest
  | .opening _ _ => (Agent.opening.run.run a).bind fun (r, a) ↦ .done (r.map .batch, a)
  | .handling _ n => ((Agent.handle most n).run a).bind fun (h, a) ↦ .done (.ok h, a)
  | .ticking => (Agent.tick.run a).bind fun (batch, a) ↦ .done (.ok (.batch batch), a)

/-- What the agent is doing. -/
inductive Doing : Type 1 where
  /-- It was not started yet. -/
  | fresh
  | working (w : Piece) (job : Rest)
  /-- A batch waits for the channel. -/
  | sending (w : Piece) (batch : List Stage)
  /-- The next attempt to open a watch is made at a time, or later. -/
  | pausing (attempt time : Nat)
  /-- It waits for something to do. -/
  | watching
  | ended (r : Except AgentError Unit)
  | crashed

end Life

/-- An agent and what it depends on. -/
structure Life : Type 1 where
  settings : AgentSettings
  tokens : Tokens
  /-- The token that is cancelled for a shutdown. -/
  shutdown : Nat
  /-- The token that is cancelled when leadership is lost. -/
  leader : Nat
  now : Nat
  agent : AgentState
  doing : Life.Doing := .fresh
  /-- The token of the watch. -/
  watch? : Option Nat := none
  /-- Whether there are ticks. -/
  ticks : Bool := false
  /-- The tokens that were made for watches, newest first. -/
  issued : List Nat := []
  /-- How many notices were received. -/
  received : Nat := 0
  /-- The numbers of the notices that wait to be handled again. -/
  numbers : List Nat := []

namespace Life

/-- Whether the agent is to stop for a shutdown. -/
def isShutDown (l : Life) : Bool := l.tokens.isCancelled l.shutdown

/-- Whether leadership is lost. -/
def isDeposed (l : Life) : Bool := l.tokens.isCancelled l.leader

/-- Whether the agent is to stop. -/
def isCancelled (l : Life) : Bool := l.isShutDown || l.isDeposed

/-- An agent that was not started yet. -/
structure IsFresh (l : Life) : Prop where
  doing : l.doing = .fresh
  watch : l.watch? = none
  ticks : l.ticks = false
  issued : l.issued = []
  received : l.received = 0
  numbers : l.numbers = []
  retries : l.agent.retries =
    { capacity := l.settings.maxPendingRetries, delay := l.settings.eventRetryDelay.toNat }

/-- The life of an agent with some settings, which begins now. -/
def ofSettings (s : AgentSettings) : Life where
  settings := s
  tokens := ⟨[⟨none, false⟩, ⟨none, false⟩]⟩
  shutdown := 0
  leader := 1
  now := 0
  agent := .start s true

theorem isFresh_ofSettings (s : AgentSettings) : (ofSettings s).IsFresh :=
  ⟨rfl, rfl, rfl, rfl, rfl, rfl, rfl⟩

/-! ## Moves -/

/-- Cancels the token of the watch. -/
def stopWatch (l : Life) : Life :=
  { l with tokens := l.watch?.elim l.tokens l.tokens.cancel, watch? := none }

/-- Does something else from now on. -/
def enter (l : Life) (doing : Doing) : Life :=
  { l with doing }

/-- Begins a piece of work. -/
def take (l : Life) (task : Task) : List Event × Life :=
  let w : Piece := { task, began := l.now }
  ([.begun w], l.enter (.working w (task.job l.settings.maxEventRetries l.agent)))

/-- Attempts to open a watch, with a new token. -/
def openWatch (l : Life) (attempt : Nat) : List Event × Life :=
  let token := l.tokens.size
  { l with tokens := l.tokens.make l.shutdown, issued := token :: l.issued }.take
    (.opening attempt token)

/-- Gives up the watch and opens one anew. -/
def rebuild (l : Life) : List Event × Life :=
  let (events, l) := l.stopWatch.openWatch 1
  (.rebuilding :: events, l)

/-- Begins to handle a notice for the first time. -/
def hear (l : Life) (n : Notice) : List Event × Life :=
  { l with received := l.received + 1 }.take (.handling l.received n)

/-- Begins to handle a notice that waited. -/
def retry (l : Life) (i number : Nat) (n : Notice) : List Event × Life :=
  let retries := { l.agent.retries with entries := l.agent.retries.entries.eraseIdx i }
  { l with numbers := l.numbers.eraseIdx i, agent := { l.agent with retries } }.take
    (.handling number n)

/-- Keeps what a piece of work left. What it queued has the number of its notice. -/
def keep (l : Life) (task : Task) (agent : AgentState) : Life :=
  let added := agent.retries.size - l.agent.retries.size
  { l with agent, numbers := l.numbers ++ task.number?.elim [] (List.replicate added) }

/-- Returns. -/
def leave (l : Life) (r : Except AgentError Unit) : List Event × Life :=
  ([.returned r], l.enter (.ended r))

/-- Goes on after an attempt to open a watch that failed. -/
def attemptFailed (l : Life) (attempt token : Nat) : List Event × Life :=
  let l := { l with tokens := l.tokens.cancel token }
  if attempt < l.settings.attempts then
    ([], l.enter (.pausing (attempt + 1) (l.now + l.settings.retryDelayMillis)))
  else l.leave (.error (.watchExhausted l.settings.attempts))

/-- Goes on after the batch of a piece of work was sent. With the first watch the ticks begin;
without a time between them there can be none. -/
def finish (l : Life) (w : Piece) : List Event × Life :=
  let l := match w.task with
    | .opening _ token =>
      let l := { l with watch? := some token }
      if l.ticks then l.enter .watching
      else if l.settings.tickInterval = 0 then l.enter .crashed
      else { l with ticks := true, doing := .watching }
    | _ => l.enter .watching
  ([.finished ⟨w, l.now, true⟩], l)

/-- Goes on after an attempt to open a watch that failed, or after the batch of a piece of work was
refused. -/
def abandon (l : Life) (w : Piece) : List Event × Life :=
  match w.task with
  | .opening attempt token =>
    let (events, l') := l.attemptFailed attempt token
    (.finished ⟨w, l.now, false⟩ :: events, l')
  | .handling _ n =>
    ([], l.enter (.working w (later n l.agent)))
  | .ticking => ([.finished ⟨w, l.now, false⟩], l.enter .watching)

/-- What is done when the channel takes a batch or refuses it. An empty batch is not sent at all. -/
def delivery (batch : List Stage) (accepted : Bool) (time : Nat) : List Act :=
  if batch.isEmpty then [] else [.sent batch accepted time]

/-! ## Steps -/

/-- A step, and what happens in it. -/
inductive Step : Life → List Event → Life → Prop
  | pass {l : Life} {now : Nat} (h : l.now ≤ now) : Step l [] { l with now }
  /-- Somebody cancels a token. -/
  | cancel {l : Life} (token : Nat) : Step l [] { l with tokens := l.tokens.cancel token }
  /-- Somebody makes a token. -/
  | subscribe {l : Life} (parent : Option Nat) : Step l [] { l with tokens := l.tokens.make parent }
  | start {l : Life} (hd : l.doing = .fresh) : Step l l.rebuild.1 l.rebuild.2
  | call {l : Life} {w : Piece} {β : Type} {c : Call β} {next : β → Rest}
    (hd : l.doing = .working w (.call c next)) (b : β) (hb : c.Tells l.now b) :
    Step l [.act (.called ⟨c, b, l.now⟩)]
      (l.enter (.working (w.add [.called ⟨c, b, l.now⟩]) (next b)))
  | yield {l : Life} {w : Piece} {batch : List Stage} {agent : AgentState}
    (hd : l.doing = .working w (.done (.ok (.batch batch), agent))) :
    Step l [] ((l.keep w.task agent).enter (.sending w batch))
  | crash {l : Life} {w : Piece} {agent : AgentState}
    (hd : l.doing = .working w (.done (.ok .crashed, agent))) : Step l [] (l.enter .crashed)
  | fail {l : Life} {w : Piece} {e : AgentError} {agent : AgentState}
    (hd : l.doing = .working w (.done (.error e, agent))) :
    Step l ((l.keep w.task agent).abandon w).1 ((l.keep w.task agent).abandon w).2
  | send {l : Life} {w : Piece} {batch : List Stage} {channel channel' : CommitChannel}
    (hd : l.doing = .sending w batch) (hc : channel.send batch = .sent channel') :
    Step l
      ((delivery batch true l.now).map .act ++ (l.finish (w.add (delivery batch true l.now))).1)
      (l.finish (w.add (delivery batch true l.now))).2
  | refuse {l : Life} {w : Piece} {batch : List Stage} {channel : CommitChannel}
    (hd : l.doing = .sending w batch) (hc : channel.send batch = .closed) :
    Step l
      ((delivery batch false l.now).map .act ++ (l.abandon (w.add (delivery batch false l.now))).1)
      (l.abandon (w.add (delivery batch false l.now))).2
  /-- The pause is over. If there is a shutdown at the same time, either may be noticed. -/
  | wake {l : Life} {attempt time : Nat} (hd : l.doing = .pausing attempt time)
    (ht : time ≤ l.now) : Step l (l.openWatch attempt).1 (l.openWatch attempt).2
  | quit {l : Life} {attempt time : Nat} (hd : l.doing = .pausing attempt time)
    (hs : l.isShutDown) : Step l (l.leave (.ok ())).1 (l.leave (.ok ())).2
  | stop {l : Life} (hd : l.doing = .watching) (hs : l.isShutDown) :
    Step l (l.stopWatch.leave (.ok ())).1 (l.stopWatch.leave (.ok ())).2
  | stepDown {l : Life} (hd : l.doing = .watching) (hs : l.isShutDown = false)
    (hl : l.isDeposed) :
    Step l (l.stopWatch.leave (.error .leadershipLost)).1
      (l.stopWatch.leave (.error .leadershipLost)).2
  /-- The watch broke. -/
  | lose {l : Life} (hd : l.doing = .watching) (hc : l.isCancelled = false) :
    Step l l.rebuild.1 l.rebuild.2
  | hear {l : Life} (hd : l.doing = .watching) (hc : l.isCancelled = false) (n : Notice) :
    Step l (l.hear n).1 (l.hear n).2
  /-- A notice comes back, at its time or later. -/
  | retry {l : Life} (hd : l.doing = .watching) (hc : l.isCancelled = false) {i number : Nat}
    {e : Delayed} (he : l.agent.retries.entries[i]? = some e) (hn : l.numbers[i]? = some number)
    (ht : e.due ≤ l.now) : Step l (l.retry i number e.notice).1 (l.retry i number e.notice).2
  | tick {l : Life} (hd : l.doing = .watching) (hc : l.isCancelled = false) :
    Step l (l.take .ticking).1 (l.take .ticking).2

/-- Any number of steps, and all that happens in them. -/
inductive Run : Life → List Event → Life → Prop
  | refl (l : Life) : Run l [] l
  | tail {l l' l'' : Life} {trace events : List Event} (hr : Run l trace l')
    (hs : Step l' events l'') : Run l (trace ++ events) l''

variable {l l' l'' : Life} {trace trace' events : List Event}

theorem Run.trans (h : Run l trace l') (h' : Run l' trace' l'') : Run l (trace ++ trace') l'' := by
  induction h' with
  | refl => rwa [List.append_nil]
  | tail _ hs ih =>
    rw [← List.append_assoc]
    exact .tail ih hs

theorem Run.head (hs : Step l events l') (h : Run l' trace l'') : Run l (events ++ trace) l'' :=
  Run.trans (.tail (.refl l) hs) h

/-- The calls of a piece of work are made one after another. -/
theorem run_calls {w : Piece} {job job' : Rest} {calls : List Answered}
    (hd : l.doing = .working w job) (h : job.Reaches calls job')
    (hcalls : ∀ x ∈ calls, x.time = l.now ∧ x.call.Tells l.now x.answer) :
    Run l (calls.map fun x ↦ .act (.called x))
      (l.enter (.working (w.add (calls.map .called)) job')) := by
  induction h generalizing l w with
  | refl job =>
    have heq : l.enter (.working (w.add []) job) = l := by
      rw [Piece.add, List.append_nil, enter, ← hd]
    exact heq.symm ▸ .refl l
  | @call _ c next b time calls job _ ih =>
    obtain ⟨⟨rfl, htells⟩, hrest⟩ := List.forall_mem_cons.1 hcalls
    have hadd : (w.add [.called ⟨c, b, l.now⟩]).add (calls.map .called) =
        w.add ((⟨c, b, l.now⟩ :: calls).map .called) := by
      simp [Piece.add]
    have hrun := ih (l := l.enter (.working (w.add [.called ⟨c, b, l.now⟩]) (next b))) rfl hrest
    rw [hadd] at hrun
    exact .head (.call hd b htells) hrun

theorem finish_enter (l : Life) (doing : Doing) (w : Piece) :
    (l.enter doing).finish w = l.finish w := by
  unfold finish
  cases w.task with
  | opening attempt token =>
    cases ht : l.ticks with
    | true => simp [enter, ht]
    | false => by_cases hi : l.settings.tickInterval = 0 <;> simp [enter, ht, hi]
  | _ => rfl

theorem abandon_enter (l : Life) (doing : Doing) (w : Piece) :
    (l.enter doing).abandon w = l.abandon w := by
  unfold abandon
  cases w.task with
  | opening attempt token =>
    unfold attemptFailed
    by_cases hlt : attempt < l.settings.attempts <;> simp [enter, leave, hlt]
  | _ => rfl

/-- With a watch the agent waits for notices. -/
theorem finish_opening {w : Piece} {attempt token : Nat} (hw : w.task = .opening attempt token)
    (hi : l.settings.tickInterval ≠ 0) : l.finish w =
      ([.finished ⟨w, l.now, true⟩],
        { l with watch? := some token, ticks := true, doing := .watching }) := by
  unfold finish
  rw [hw]
  cases ht : l.ticks with
  | true => simp [enter]
  | false => simp [hi]

section Batch

variable {w : Piece} {job : Rest} {calls : List Answered} {batch : List Stage} {agent : AgentState}
  {channel channel' : CommitChannel}

/-- A piece of work that leaves a batch. -/
theorem run_yield (hd : l.doing = .working w job)
    (h : job.Reaches calls (.done (.ok (.batch batch), agent)))
    (hcalls : ∀ x ∈ calls, x.time = l.now ∧ x.call.Tells l.now x.answer) :
    Run l (calls.map fun x ↦ .act (.called x))
      ((l.keep w.task agent).enter (.sending (w.add (calls.map .called)) batch)) := by
  rw [← List.append_nil (calls.map _)]
  exact .tail (run_calls hd h hcalls) (.yield rfl)

/-- The channel takes the batch. -/
theorem run_finish (hd : l.doing = .working w job)
    (h : job.Reaches calls (.done (.ok (.batch batch), agent)))
    (hcalls : ∀ x ∈ calls, x.time = l.now ∧ x.call.Tells l.now x.answer)
    (hc : channel.send batch = .sent channel') :
    let w := (w.add (calls.map .called)).add (delivery batch true l.now)
    Run l (calls.map (fun x ↦ .act (.called x)) ++
        ((delivery batch true l.now).map .act ++ ((l.keep w.task agent).finish w).1))
      ((l.keep w.task agent).finish w).2 := by
  intro w'
  have hsend := (run_yield hd h hcalls).tail (.send rfl hc)
  rw [finish_enter] at hsend
  exact hsend

end Batch

/-! ## What a step leaves as it is -/

/-- Time goes on, and tokens are cancelled for good. -/
structure Goes (l l' : Life) : Prop where
  settings : l'.settings = l.settings
  shutdown : l'.shutdown = l.shutdown
  leader : l'.leader = l.leader
  now : l.now ≤ l'.now
  tokens : l.tokens.Grows l'.tokens

namespace Goes

theorem refl (l : Life) : Goes l l := ⟨rfl, rfl, rfl, le_rfl, .refl _⟩

theorem trans (h : Goes l l') (h' : Goes l' l'') : Goes l l'' :=
  ⟨h'.settings.trans h.settings, h'.shutdown.trans h.shutdown, h'.leader.trans h.leader,
    h.now.trans h'.now, h.tokens.trans h'.tokens⟩

theorem enter (h : Goes l l') (doing : Doing) : Goes l (l'.enter doing) :=
  h.trans ⟨rfl, rfl, rfl, le_rfl, .refl _⟩

end Goes

theorem goes_stopWatch (l : Life) : Goes l l.stopWatch := by
  refine ⟨rfl, rfl, rfl, le_rfl, ?_⟩
  unfold stopWatch
  cases l.watch? with
  | none => exact .refl _
  | some token => exact .cancel _ _

theorem goes_openWatch (l : Life) (attempt : Nat) : Goes l (l.openWatch attempt).2 :=
  ⟨rfl, rfl, rfl, le_rfl, .make _ _⟩

/-! ## The end of a piece of work -/

/-- What the agent turns to after a piece of work that was done, or that was not. -/
inductive Closes (l : Life) (w : Piece) : Bool → List Event → Life → Prop
  | watched {attempt token : Nat} (hw : w.task = .opening attempt token) :
    Closes l w true [.finished ⟨w, l.now, true⟩]
      { l with watch? := some token, ticks := true, doing := .watching }
  /-- There is no time between ticks. -/
  | stalled {attempt token : Nat} (hw : w.task = .opening attempt token)
    (hi : l.settings.tickInterval = 0) :
    Closes l w true [.finished ⟨w, l.now, true⟩]
      { l with watch? := some token, doing := .crashed }
  | paused {attempt token : Nat} (hw : w.task = .opening attempt token)
    (hlt : attempt < l.settings.attempts) :
    Closes l w false [.finished ⟨w, l.now, false⟩]
      { l with
        tokens := l.tokens.cancel token
        doing := .pausing (attempt + 1) (l.now + l.settings.retryDelayMillis) }
  | exhausted {attempt token : Nat} (hw : w.task = .opening attempt token)
    (hge : l.settings.attempts ≤ attempt) :
    Closes l w false
      [.finished ⟨w, l.now, false⟩, .returned (.error (.watchExhausted l.settings.attempts))]
      { l with
        tokens := l.tokens.cancel token
        doing := .ended (.error (.watchExhausted l.settings.attempts)) }
  /-- The batch of a notice was refused. -/
  | again {number : Nat} {n : Notice} (hw : w.task = .handling number n) :
    Closes l w false [] { l with doing := .working w (later n l.agent) }
  | back {ok : Bool} (hw : w.task.isOpening = false) (hok : ok = true ∨ w.task = .ticking) :
    Closes l w ok [.finished ⟨w, l.now, ok⟩] { l with doing := .watching }

theorem finish_closes (l : Life) (w : Piece) : Closes l w true (l.finish w).1 (l.finish w).2 := by
  unfold finish
  split
  · next attempt token hw =>
    by_cases ht : l.ticks
    · rw [if_pos ht]
      show Closes l w true _ { l with watch? := some token, ticks := l.ticks, doing := .watching }
      rw [ht]
      exact .watched hw
    · rw [if_neg ht]
      by_cases hi : l.settings.tickInterval = 0
      · rw [if_pos hi]
        exact .stalled hw hi
      · rw [if_neg hi]
        exact .watched hw
  · next hw =>
    refine .back ?_ (.inl rfl)
    cases htask : w.task with
    | opening attempt token => exact absurd htask (hw attempt token)
    | _ => rfl

theorem abandon_closes (l : Life) (w : Piece) :
    Closes l w false (l.abandon w).1 (l.abandon w).2 := by
  unfold abandon
  split
  · next attempt token hw =>
    unfold attemptFailed
    dsimp only
    split
    · next hlt => exact .paused hw hlt
    · next hge => exact .exhausted hw (Nat.le_of_not_lt hge)
  · next number n hw => exact .again hw
  · next hw => exact .back (by rw [hw]; rfl) (.inr hw)

theorem Closes.goes {w : Piece} {ok : Bool} (h : Closes l w ok events l') : Goes l l' := by
  cases h with
  | watched _ | stalled _ _ | again _ | back _ _ => exact ⟨rfl, rfl, rfl, le_rfl, .refl _⟩
  | paused _ _ | exhausted _ _ => exact ⟨rfl, rfl, rfl, le_rfl, .cancel _ _⟩

theorem Step.goes (hs : Step l events l') : Goes l l' := by
  cases hs with
  | pass h => exact ⟨rfl, rfl, rfl, h, .refl _⟩
  | cancel token => exact ⟨rfl, rfl, rfl, le_rfl, .cancel _ _⟩
  | subscribe parent => exact ⟨rfl, rfl, rfl, le_rfl, .make _ _⟩
  | start hd => exact (goes_stopWatch l).trans (goes_openWatch _ _)
  | @fail w _ agent hd =>
    have hkeep : Goes l (l.keep w.task agent) := ⟨rfl, rfl, rfl, le_rfl, .refl _⟩
    exact hkeep.trans (abandon_closes _ w).goes
  | send hd hc => exact (finish_closes l _).goes
  | refuse hd hc => exact (abandon_closes l _).goes
  | wake hd ht => exact goes_openWatch l _
  | stop hd hs => exact (goes_stopWatch l).enter _
  | stepDown hd hs hl => exact (goes_stopWatch l).enter _
  | lose hd hc => exact (goes_stopWatch l).trans (goes_openWatch _ _)
  | _ => exact ⟨rfl, rfl, rfl, le_rfl, .refl _⟩

theorem Run.goes (hr : Run l trace l') : Goes l l' := by
  induction hr with
  | refl => exact .refl l
  | tail hr hs ih => exact ih.trans hs.goes

end Life

end StageRelay
