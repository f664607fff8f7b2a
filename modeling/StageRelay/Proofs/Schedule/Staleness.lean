import StageRelay.CommandLine
import StageRelay.Proofs.Schedule.Steps

/-!
# How long stages wait

While the agent watches, ticks are never late: everything that is done at an instant is done before
time goes on, and time does not go on beyond the next tick. So however often a stage changes, a tick
takes it out before it has waited for longer than the force window and the time between two ticks;
and none takes it out before it was left alone for the debounce window, unless it has waited for
longer than the force window.
-/

namespace StageRelay

namespace Debouncer

variable {d : Debouncer} {x : Timeline} {time now : Nat} {s : Stage}

/-! ## Stages that began to wait early -/

/-- No stage waits since before a time. -/
def NoneBefore (time : Nat) (d : Debouncer) : Prop :=
  ∀ e ∈ d.waiting, time ≤ e.2.since

theorem NoneBefore.update (h : d.NoneBefore time) (hnow : time ≤ now) :
    (d.update now s).NoneBefore time := by
  intro e he
  rcases Dict.mem_of_mem_insert he with rfl | he
  · -- a stage that waits already keeps the time at which it began to wait
    cases hw : d.waiting.find? s.key with
    | none => exact hnow
    | some w => exact h (s.key, w) (Dict.mem_of_find?_eq_some hw)
  · exact h e he

theorem NoneBefore.drain (h : d.NoneBefore time) : (d.drain now).2.NoneBefore time :=
  fun e he ↦ h e (List.mem_filter.1 he).1

/-- What a drain leaves has not waited for longer than the force window. -/
theorem noneBefore_drain (d : Debouncer) (now : Nat) :
    (d.drain now).2.NoneBefore (now - d.force) := by
  intro e he
  have hwaits := (List.mem_filter.1 he).2
  simp only [isDue, Bool.not_or, Bool.and_eq_true, Bool.not_eq_true', decide_eq_false_iff_not]
    at hwaits
  omega

theorem NoneBefore.run (h : x.debouncer.NoneBefore time) (hnow : time ≤ x.now) (acts : List Act) :
    (x.run acts).debouncer.NoneBefore time := by
  induction acts generalizing x with
  | nil => exact h
  | cons a acts ih =>
    cases a with
    | update s => exact ih (x := x.act (.update s)) (h.update hnow) hnow
    | pass millis => exact ih (x := x.act (.pass millis)) h (Nat.le_add_right_of_le hnow)
    | drain => exact ih (x := x.act .drain) h.drain hnow

end Debouncer

/-! ## What calls do to the stages that wait -/

/-- What a call does to the stages that wait, if anything. -/
def Answered.event? : Answered → Option Debouncer.Event
  | ⟨.postpone s, _, time⟩ => some (.updated time s)
  | ⟨.drain, due, time⟩ => some (.drained time due)
  | _ => none

namespace Services

variable {s s' : Services} {calls : List Answered} {past : List Debouncer.Event}

/-- What calls do to the stages that wait. -/
def eventsOf (calls : List Answered) : List Debouncer.Event :=
  calls.filterMap Answered.event?

/-- The stages that wait, and what has happened to them. -/
def timeline (s : Services) (past : List Debouncer.Event) : Debouncer.Timeline :=
  ⟨s.debouncer, s.now, past⟩

theorem exists_acts_answer (s : Services) {β : Type} (c : Call β) (past : List Debouncer.Event) :
    ∃ acts,
      (s.answer c).2.timeline (past ++ (Answered.event? ⟨c, (s.answer c).1, s.now⟩).toList) =
        (s.timeline past).run acts := by
  have hdebouncer := Batch.debouncer_answer c s
  have hnow := now_answer s c
  unfold timeline
  rw [hdebouncer, hnow]
  cases c with
  | postpone t => exact ⟨[.update t], rfl⟩
  | drain => exact ⟨[.drain], rfl⟩
  | _ => exact ⟨[], congrArg (Debouncer.Timeline.mk s.debouncer s.now) (List.append_nil past)⟩

/-- Calls are acts on the stages that wait. -/
theorem Follows.exists_acts (h : s.Follows calls s') (past : List Debouncer.Event) :
    ∃ acts, s'.timeline (past ++ eventsOf calls) = (s.timeline past).run acts := by
  induction h generalizing past with
  | refl s => exact ⟨[], by rw [eventsOf, List.filterMap_nil, List.append_nil]; rfl⟩
  | @call s s' β calls c _ ih =>
    obtain ⟨acts, hacts⟩ := exists_acts_answer s c past
    obtain ⟨acts', hacts'⟩ := ih (past ++ (Answered.event? ⟨c, (s.answer c).1, s.now⟩).toList)
    refine ⟨acts ++ acts', ?_⟩
    rw [Debouncer.Timeline.run_append, ← hacts, ← hacts', List.append_assoc]
    congr 2
    rw [eventsOf, List.filterMap_cons]
    cases Answered.event? ⟨c, (s.answer c).1, s.now⟩ <;> rfl
  | watches _ _ ih => exact ih past

/-- What a tick leaves has not waited for longer than the force window. -/
theorem noneBefore_afterTick (s : Services) :
    s.afterTick.debouncer.NoneBefore (s.now - s.debouncer.force) := by
  have hdrain : s.drain.2.debouncer.NoneBefore (s.now - s.debouncer.force) :=
    Debouncer.noneBefore_drain s.debouncer s.now
  unfold afterTick
  split
  · exact hdrain.update (Nat.sub_le _ _)
  · exact hdrain

end Services

namespace Pipeline

variable {p q r : Pipeline} {past events events' : List Debouncer.Event}

/-! ## Moves -/

/-- What may happen while the agent runs, with what it does to the stages that wait. The agent and
the committer take their steps, and others do what they like. Time passes only while the agent waits
for something to do, and not beyond the next tick. -/
inductive Moves : Pipeline → List Debouncer.Event → Pipeline → Prop
  | agent {p q : Pipeline} {calls : List Answered} (hq : p.agentStep? = some q)
    (hcalls : p.services.Follows calls q.services) : Moves p (Services.eventsOf calls) q
  | committer {p q : Pipeline} {calls : List Answered} (hq : p.committerStep? = some q)
    (hcalls : p.services.Follows calls q.services) : Moves p (Services.eventsOf calls) q
  /-- Somebody makes a stage wait. -/
  | postpone (p : Pipeline) (s : Stage) : Moves p [.updated p.now s] (p.postpone s)
  /-- The registry is changed, or something begins or ceases to fail. -/
  | change {p : Pipeline} (services : Services) (hnow : services.now = p.now)
    (hwaits : services.debouncer = p.services.debouncer) : Moves p [] { p with services }
  | shutDown (p : Pipeline) : Moves p [] { p with isShutDown := true }
  | depose (p : Pipeline) : Moves p [] { p with leaderLost := true }
  | pass {p : Pipeline} {watch time : Nat} (hphase : p.phase = .watching watch)
    (hidle : p.agentStep? = none) (htime : p.now ≤ time)
    (hnext : ∀ due, p.nextTick? = some due → time ≤ due) : Moves p [] (p.setTime time)

/-- Any number of moves, and what they do to the stages that wait. -/
inductive Runs : Pipeline → List Debouncer.Event → Pipeline → Prop
  | refl (p : Pipeline) : Runs p [] p
  | tail {p q r : Pipeline} {past events : List Debouncer.Event} (hr : Runs p past q)
    (hm : Moves q events r) : Runs p (past ++ events) r

/-- A move acts on the stages that wait. -/
theorem Moves.exists_acts (h : Moves p events q) (past : List Debouncer.Event) :
    ∃ acts, q.services.timeline (past ++ events) = (p.services.timeline past).run acts := by
  have hstill : (p.services.timeline (past ++ [])) = (p.services.timeline past).run [] := by
    rw [List.append_nil]
    rfl
  cases h with
  | agent _ hcalls => exact hcalls.exists_acts past
  | committer _ hcalls => exact hcalls.exists_acts past
  | postpone s => exact ⟨[.update s], rfl⟩
  | change services hnow hwaits =>
    refine ⟨[], Eq.trans ?_ hstill⟩
    unfold Services.timeline
    rw [hnow, hwaits]
    rfl
  | shutDown => exact ⟨[], hstill⟩
  | depose => exact ⟨[], hstill⟩
  | @pass _ time _ _ htime _ =>
    refine ⟨[.pass (time - p.now)], ?_⟩
    have htime' : time = p.now + (time - p.now) := by omega
    show (⟨p.services.debouncer, time, past ++ []⟩ : Debouncer.Timeline) =
      ⟨p.services.debouncer, p.now + (time - p.now), past⟩
    rw [← htime', List.append_nil]

theorem Moves.now_le (h : Moves p events q) : p.now ≤ q.now := by
  cases h with
  | agent _ hcalls => exact hcalls.now_eq.ge
  | committer _ hcalls => exact hcalls.now_eq.ge
  | change services hnow => exact hnow.ge
  | pass _ _ htime => exact htime
  | _ => exact Nat.le_refl _

/-- The next tick stays where it is, and time does not go on beyond it. -/
def Awaits (p q : Pipeline) : Prop :=
  ∀ due, p.nextTick? = some due → q.nextTick? = some due ∧ (p.now ≤ due → q.now ≤ due)

theorem Works.awaits (h : p.Works q) : p.Awaits q :=
  fun due hdue ↦ ⟨h.nextTick due hdue, h.now_eq.le.trans⟩

/-- Only a tick moves the next tick. -/
theorem Moves.awaits_or_ticks (h : Moves p events q) :
    q.settings = p.settings ∧ (p.Awaits q ∨ p.Ticks q) := by
  cases h with
  | agent hq =>
    rcases works_or_ticks hq with hworks | hticks
    · exact ⟨hworks.settings, .inl hworks.awaits⟩
    · exact ⟨hticks.settings, .inr hticks⟩
  | committer hq =>
    have hworks := works_of_committerStep? hq
    exact ⟨hworks.settings, .inl hworks.awaits⟩
  | change services hnow => exact ⟨rfl, .inl fun due hdue ↦ ⟨hdue, hnow.le.trans⟩⟩
  | pass _ _ _ hnext => exact ⟨rfl, .inl fun due hdue ↦ ⟨hdue, fun _ ↦ hnext due hdue⟩⟩
  | _ => exact ⟨rfl, .inl fun due hdue ↦ ⟨hdue, id⟩⟩

/-! ## Punctuality -/

/-- The next tick is ahead, by no more than the time between two ticks, and comes before a stage has
waited for longer than the force window and the time between two ticks. -/
def Scheduled (s : AgentSettings) (p : Pipeline) : Prop :=
  ∃ due, p.nextTick? = some due ∧ p.now ≤ due ∧ due ≤ p.now + s.tickInterval.toNat ∧
    p.services.debouncer.NoneBefore (due - (s.forceWindow.toNat + s.tickInterval.toNat))

/-- A pipeline whose agent keeps to its settings, with what has happened to the stages that wait. -/
structure Punctual (s : AgentSettings) (begun : Nat) (past : List Debouncer.Event) (p : Pipeline) :
    Prop where
  settings : p.settings = s
  timeline : ∃ acts, p.services.timeline past =
    (Debouncer.Timeline.start s.debounceWindow.toNat s.forceWindow.toNat begun).run acts
  scheduled : p.Scheduled s

namespace Punctual

variable {s : AgentSettings} {begun : Nat}

theorem faithful (h : Punctual s begun past p) : (p.services.timeline past).Faithful
    s.debounceWindow.toNat s.forceWindow.toNat := by
  obtain ⟨acts, hacts⟩ := h.timeline
  rw [hacts]
  exact (Debouncer.Timeline.Faithful.start _ _ begun).run acts

theorem scheduled_move (h : Punctual s begun past p) (hm : Moves p events q)
    (hq : p.Awaits q) : q.Scheduled s := by
  obtain ⟨due, hdue, hle, hge, hnone⟩ := h.scheduled
  obtain ⟨acts, hacts⟩ := hm.exists_acts past
  obtain ⟨hnext, hahead⟩ := hq due hdue
  have hnow := hm.now_le
  have hearly : due - (s.forceWindow.toNat + s.tickInterval.toNat) ≤ p.now := by omega
  have hkept := Debouncer.NoneBefore.run (x := p.services.timeline past) hnone hearly acts
  rw [← hacts] at hkept
  exact ⟨due, hnext, hahead hle, by omega, hkept⟩

/-- A tick comes when it is due, and takes out every stage that has waited for longer than the force
window. -/
theorem scheduled_tick (h : Punctual s begun past p) (hq : p.Ticks q) : q.Scheduled s := by
  obtain ⟨due, hdue, hle, -, -⟩ := h.scheduled
  obtain ⟨due', hdue', hover, hnext⟩ := hq.nextTick
  obtain rfl : due = due' := Option.some.inj (hdue.symm.trans hdue')
  obtain rfl : p.now = due := Nat.le_antisymm hle hover
  have hnow := hq.now_eq
  have hforce : p.services.debouncer.force = s.forceWindow.toNat := h.faithful.windows.2
  have hlater : p.now + s.tickInterval.toNat - (s.forceWindow.toNat + s.tickInterval.toNat) =
      p.now - p.services.debouncer.force := by
    omega
  rw [tickAfter, if_neg (by omega), h.settings] at hnext
  refine ⟨_, hnext, by omega, by omega, ?_⟩
  rw [hlater, hq.services]
  exact p.services.noneBefore_afterTick

/-- The agent keeps to its settings whatever happens. -/
theorem move (h : Punctual s begun past p) (hm : Moves p events q) :
    Punctual s begun (past ++ events) q := by
  obtain ⟨hsettings, hq⟩ := hm.awaits_or_ticks
  obtain ⟨acts, hacts⟩ := h.timeline
  obtain ⟨acts', hacts'⟩ := hm.exists_acts past
  refine ⟨hsettings.trans h.settings, ⟨acts ++ acts', ?_⟩, ?_⟩
  · rw [hacts', hacts, Debouncer.Timeline.run_append]
  · rcases hq with hawaits | hticks
    · exact h.scheduled_move hm hawaits
    · exact h.scheduled_tick hticks

theorem run (h : Punctual s begun past p) (hr : Runs p events q) :
    Punctual s begun (past ++ events) q := by
  induction hr with
  | refl => rwa [List.append_nil]
  | tail _ hm ih =>
    rw [← List.append_assoc]
    exact ih.move hm

/-- With its first watch the agent begins to keep to its settings. -/
theorem of_start {watch : Nat} (hticks : p.nextTick? = none)
    (hempty : p.services.debouncer = .ofSettings p.settings)
    (hphase : p.start.phase = .watching watch) : Punctual p.settings p.now [] p.start := by
  obtain ⟨hnext, hwaits⟩ := started_of_watching hticks hphase
  have hworks := works_start p
  have hnow := hworks.now_eq
  refine ⟨hworks.settings, ⟨[], ?_⟩, p.now, hnext, hnow.le, by omega, ?_⟩
  · show (⟨p.start.services.debouncer, p.start.now, []⟩ : Debouncer.Timeline) = _
    rw [hwaits, hempty, hnow]
    rfl
  · rw [hwaits, hempty]
    exact fun e he ↦ nomatch he

end Punctual

/-! ## The clock -/

theorem Runs.trans (h : Runs p past q) (h' : Runs q events r) : Runs p (past ++ events) r := by
  induction h' with
  | refl => rwa [List.append_nil]
  | tail _ hm ih =>
    rw [← List.append_assoc]
    exact .tail ih hm

theorem Runs.of_move (h : Moves p events q) : Runs p events q :=
  .tail (.refl p) h

/-- Every step is a move, and takes no time. -/
theorem exists_moves_of_step? (h : p.step? = some q) :
    ∃ events, Moves p events q ∧ q.now = p.now := by
  rcases Option.or_eq_some_iff.1 h with hq | ⟨-, hq⟩
  · obtain ⟨calls, hcalls⟩ := follows_of_agentStep? hq
    exact ⟨_, .agent hq hcalls, hcalls.now_eq⟩
  · obtain ⟨calls, hcalls⟩ := (works_of_committerStep? hq).services
    exact ⟨_, .committer hq hcalls, hcalls.now_eq⟩

theorem exists_runs_steps (fuel : Nat) (p : Pipeline) :
    ∃ events, Runs p events (p.steps fuel) ∧ (p.steps fuel).now = p.now := by
  induction fuel generalizing p with
  | zero => exact ⟨[], .refl p, rfl⟩
  | succ fuel ih =>
    unfold steps
    cases hq : p.step? with
    | none => exact ⟨[], .refl p, rfl⟩
    | some q =>
      obtain ⟨events, hm, hnow⟩ := exists_moves_of_step? hq
      obtain ⟨events', hr, hnow'⟩ := ih q
      exact ⟨events ++ events', (Runs.of_move hm).trans hr, hnow'.trans hnow⟩

/-- A tick comes when it is due and nothing else is to be done. -/
theorem moves_tick {watch due : Nat} {stages : List Stage} (h : p.Rests watch)
    (hnext : p.nextTick? = some due) (hnow : p.now = due) (hdrain : p.services.drain.1 = stages)
    (hnamed : stages.any Stage.isAll = false) : Moves p [.drained due stages] (p.steps 1) := by
  obtain ⟨q, htick⟩ : ∃ q, p.tickStep? watch = some q := ⟨_, tickStep?_eq_some hnext hnow.ge⟩
  have hq : p.agentStep? = some q := h.agentStep?_eq.trans htick
  have hstep : p.steps 1 = q := by
    unfold steps step?
    rw [hq]
    rfl
  have hservices := (Ticks.of_tickStep? htick).services
  rw [Services.afterTick, hdrain, hnamed, Bool.false_and, if_neg Bool.false_ne_true] at hservices
  have hcalls : p.services.Follows [⟨.drain, p.services.drain.1, p.now⟩] q.services :=
    .call .drain (hservices ▸ .refl _)
  rw [hstep, ← hnow, ← hdrain]
  exact .agent hq hcalls

theorem moves_postpone {time : Nat} (hnow : p.now = time) (s : Stage) :
    Moves p [.updated time s] (p.postpone s) :=
  hnow ▸ .postpone p s

/-- The agent is back on its watch, with nothing to do. -/
def IsBack (p : Pipeline) : Prop :=
  ∃ watch, p.phase = .watching watch ∧ p.agentStep? = none

/-- At some time the agent does what there is to do, and is not back on its watch then. -/
def Strays (p : Pipeline) : Prop :=
  ∃ (events : List Debouncer.Event) (q : Pipeline), Runs p events q.settle ∧ ¬ q.settle.IsBack

theorem Strays.head (hr : Runs p events q) (h : q.Strays) : p.Strays := by
  obtain ⟨rest, r, hrest, hback⟩ := h
  exact ⟨events ++ rest, r, hr.trans hrest, hback⟩

/-- The next time at which the agent has something to do is ahead, and no later than the next
tick. -/
theorem exists_nextTime?_le {watch due : Nat} (hphase : p.phase = .watching watch)
    (hidle : p.agentStep? = none) (hnext : p.nextTick? = some due) :
    ∃ time, p.nextTime? = some time ∧ p.now < time ∧ time ≤ due := by
  have hahead := now_lt_of_agentStep?_eq_none hphase hidle hnext
  have hretries := (rests_of_agentStep?_eq_none hphase hidle).waits
  unfold nextTime?
  rw [hphase, hnext]
  unfold RetryQueue.pop? at hretries
  cases hfirst : p.agent.retries.first? with
  | none => exact ⟨due, rfl, hahead, Nat.le_refl due⟩
  | some e =>
    rw [hfirst] at hretries
    have hlater : ¬ e.due ≤ p.now := fun hdue ↦ by simp [hdue] at hretries
    exact ⟨min due e.due, rfl, by omega, Nat.min_le_left due e.due⟩

theorem exists_runs_runTo {s : AgentSettings} {begun t fuel : Nat} (h : Punctual s begun past p)
    (hp : p.IsBack) (ht : p.now ≤ t) (hfuel : t < p.now + fuel) :
    (∃ events, Runs p events (p.runTo t fuel)) ∨ p.Strays := by
  induction fuel generalizing p past with
  | zero => exact absurd ht (Nat.not_le.2 hfuel)
  | succ fuel ih =>
    obtain ⟨watch, hphase, hidle⟩ := hp
    obtain ⟨due, hdue, -⟩ := h.scheduled
    obtain ⟨time, hnext, hlt, hle⟩ := exists_nextTime?_le hphase hidle hdue
    have hpass {time' : Nat} (hnow : p.now ≤ time') (htime : time' ≤ due) :
        Moves p [] (p.setTime time') :=
      .pass hphase hidle hnow fun due' hdue' ↦ by
        rwa [← Option.some.inj (hdue.symm.trans hdue')]
    unfold runTo
    rw [hnext]
    dsimp only
    split
    · rw [Nat.max_eq_left hlt.le]
      obtain ⟨events, hsettled, hnow⟩ := exists_runs_steps (p.setTime time).load (p.setTime time)
      have hr : Runs p events (p.setTime time).settle :=
        (Runs.of_move (hpass hlt.le hle)).trans hsettled
      have hnow : (p.setTime time).settle.now = time := hnow
      by_cases hback : (p.setTime time).settle.IsBack
      · rcases ih (h.run hr) hback (by omega) (by omega) with ⟨events', hrest⟩ | hstrays
        · exact .inl ⟨events ++ events', hr.trans hrest⟩
        · exact .inr (hstrays.head hr)
      · exact .inr ⟨events, p.setTime time, hr, hback⟩
    · exact .inl ⟨_, .of_move (hpass ht (by omega))⟩

/-- The clock takes a pipeline along a run, unless the agent strays from its watch. -/
theorem exists_runs_advance {s : AgentSettings} {begun : Nat} (h : Punctual s begun past p)
    (millis : Nat) : (∃ events, Runs p events (p.advance millis)) ∨ p.Strays := by
  obtain ⟨events, hsettled, -⟩ := exists_runs_steps p.load p
  have hr : Runs p events p.settle := hsettled
  by_cases hback : p.settle.IsBack
  · have hfuel : p.settle.now + millis < p.settle.now + (millis + 1) := by omega
    rcases exists_runs_runTo (h.run hr) hback (Nat.le_add_right _ millis) hfuel with
      ⟨events', hrest⟩ | hstrays
    · exact .inl ⟨events ++ events', hr.trans hrest⟩
    · exact .inr (hstrays.head hr)
  · exact .inr ⟨events, p, hr, hback⟩

/-! ## Bounds -/

/-- No stage leaves too early: a drain takes out a stage only if it was left alone for longer than
the debounce window or has waited for longer than the force window. And none leaves too late: when
the agent has nothing to do, every stage that waits began to wait less than the force window and the
time between two ticks ago. This holds whatever changes, fails and is tried again. -/
theorem leaves_in_time {watch : Nat} (hticks : p.nextTick? = none)
    (hempty : p.services.debouncer = .ofSettings p.settings)
    (hphase : p.start.phase = .watching watch) (hr : Runs p.start past q) :
    (∀ watch', q.phase = .watching watch' → q.agentStep? = none →
      ∀ key w, q.services.debouncer.waiting.find? key = some w →
        (Debouncer.changes key past).head?.map Prod.fst = some w.since ∧
          q.now < w.since + (p.settings.forceWindow.toNat + p.settings.tickInterval.toNat)) ∧
    (∀ before time stages after, past = before ++ .drained time stages :: after →
      ∀ s ∈ stages, ∃ first last, (Debouncer.changes s.key before).head? = some first ∧
        (Debouncer.changes s.key before).getLast? = some last ∧ s = last.2 ∧
        (last.1 + p.settings.debounceWindow.toNat < time ∨
          first.1 + p.settings.forceWindow.toNat < time)) := by
  have hpunctual : Punctual p.settings p.now past q :=
    (Punctual.of_start hticks hempty hphase).run hr
  constructor
  · intro watch' hwatching hidle key w hw
    obtain ⟨due, hnext, -, -, hnone⟩ := hpunctual.scheduled
    have hahead : q.now < due := now_lt_of_agentStep?_eq_none hwatching hidle hnext
    have hsince := hnone (key, w) (Dict.mem_of_find?_eq_some hw)
    have hwaits := hw.symm.trans (hpunctual.faithful.waits key)
    obtain ⟨first, last, hfirst, -, rfl⟩ := Debouncer.waitingOf_eq_some_iff.1 hwaits.symm
    refine ⟨congrArg (Option.map Prod.fst) hfirst, ?_⟩
    dsimp only at hsince ⊢
    omega
  · rintro before time stages after rfl s hs
    obtain ⟨acts, hacts⟩ := hpunctual.timeline
    obtain ⟨y, hy, rfl, rfl, rfl⟩ :=
      Debouncer.exists_faithful_of_drained (congrArg Debouncer.Timeline.past hacts).symm
    obtain ⟨first, last, hfirst, hlast, hpayload, hdue⟩ := hy.mem_drain_iff.1 hs
    exact ⟨first, last, hfirst, hlast, hpayload, hdue.imp_right fun hforced ↦ by omega⟩

/-- A stage changes, and a tick takes it out because it has waited for longer than the force window,
although it was not left alone for the debounce window. It changes again at once. -/
theorem leaves_in_time_forced :
    let stage : Stage := { gateway := "gateway", name := "stage" }
    let p := Pipeline.ofSettings
      { agent := { debounceWindow := 5, forceWindow := 1, tickInterval := 2 } } {}
    let before : List Debouncer.Event := [.drained 0 [], .updated 0 stage]
    let past : List Debouncer.Event := before ++ [.drained 2 [stage], .updated 2 stage]
    ∃ q, (p.nextTick? = none ∧ p.services.debouncer = .ofSettings p.settings ∧
        p.start.phase = .watching 0 ∧ Runs p.start past q) ∧
      (q.phase = .watching 0 ∧ q.agentStep? = none ∧
        ∃ w, q.services.debouncer.waiting.find? stage.key = some w ∧
          (Debouncer.changes stage.key past).head?.map Prod.fst = some w.since ∧
          q.now < w.since + (1 + 2)) ∧
      ∃ first last, (Debouncer.changes stage.key before).head? = some first ∧
        (Debouncer.changes stage.key before).getLast? = some last ∧ stage = last.2 ∧
        (last.1 + 5 < 2 ∨ first.1 + 1 < 2) := by
  intro stage p before past
  have hrests (q : Pipeline) (h : q.phase = .watching 0 ∧ q.isShutDown = false ∧
      q.leaderLost = false ∧ q.services.registry.watches[0]? = some ({} : Watch) ∧
      q.agent.retries.pop? q.now = none) : q.Rests 0 := by
    obtain ⟨hphase, hshutDown, hleaderLost, hwatch, hretries⟩ := h
    exact ⟨hphase, ⟨hshutDown, hleaderLost⟩, by rw [Registry.receive, hwatch]; rfl, hretries⟩
  -- a tick, a change, a tick two milliseconds later, and another change
  have hphase : p.start.phase = .watching 0 := by decide +kernel
  have hticked : Moves p.start [.drained 0 []] (p.start.steps 1) :=
    moves_tick (hrests _ (by decide +kernel)) (by decide +kernel) (by decide +kernel)
      (by decide +kernel) (by decide +kernel)
  obtain ⟨q₁, hq₁⟩ : ∃ q, (p.start.steps 1).postpone stage = q := ⟨_, rfl⟩
  have hchanged : Moves (p.start.steps 1) [.updated 0 stage] q₁ := by
    rw [← hq₁]
    exact moves_postpone (by decide +kernel) stage
  have hidle₁ : q₁.phase = .watching 0 ∧ q₁.agentStep?.isNone ∧ q₁.nextTick? = some 2 ∧
      q₁.now ≤ 2 := by
    rw [← hq₁]
    decide +kernel
  have hpassed : Moves q₁ [] (q₁.setTime 2) :=
    .pass hidle₁.1 (Option.isNone_iff_eq_none.1 hidle₁.2.1) hidle₁.2.2.2
      fun due hdue ↦ (Option.some.inj (hidle₁.2.2.1.symm.trans hdue)).le
  have hforced : Moves (q₁.setTime 2) [.drained 2 [stage]] ((q₁.setTime 2).steps 1) := by
    rw [← hq₁]
    exact moves_tick (hrests _ (by decide +kernel)) (by decide +kernel) rfl (by decide +kernel)
      (by decide +kernel)
  obtain ⟨q₂, hq₂⟩ : ∃ q, ((q₁.setTime 2).steps 1).postpone stage = q := ⟨_, rfl⟩
  have hagain : Moves ((q₁.setTime 2).steps 1) [.updated 2 stage] q₂ := by
    rw [← hq₂]
    exact moves_postpone (by rw [← hq₁]; decide +kernel) stage
  have hidle₂ : q₂.phase = .watching 0 ∧ q₂.agentStep?.isNone ∧
      q₂.services.debouncer.waiting.find? stage.key = some ⟨stage, 2, 7⟩ := by
    rw [← hq₂, ← hq₁]
    decide +kernel
  have hr : Runs p.start past q₂ :=
    (((((Runs.refl _).tail hticked).tail hchanged).tail hpassed).tail hforced).tail hagain
  have hidle := Option.isNone_iff_eq_none.1 hidle₂.2.1
  obtain ⟨hlate, hearly⟩ := leaves_in_time rfl rfl hphase hr
  have hbound := hlate 0 hidle₂.1 hidle stage.key ⟨stage, 2, 7⟩ hidle₂.2.2
  exact ⟨q₂, ⟨rfl, rfl, hphase, hr⟩, ⟨hidle₂.1, hidle, _, hidle₂.2.2, hbound⟩,
    hearly before 2 [stage] [.updated 2 stage] rfl stage (List.mem_singleton_self stage)⟩

end Pipeline

end StageRelay
