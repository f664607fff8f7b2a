import StageRelay.Pipeline.Clock
import StageRelay.Proofs.Agent.Opening
import StageRelay.Proofs.Agent.Tick
import StageRelay.Proofs.Batch.InTurn
import StageRelay.Proofs.Life.Services

/-!
# When ticks are due

Whatever the agent and the committer do at an instant is calls, and leaves the next tick where it
is. Only a tick moves it, and only when it is due.
-/

namespace StageRelay

namespace Pipeline

/-- Calls are made, but the next tick stays where it is. -/
structure Works (p q : Pipeline) : Prop where
  settings : q.settings = p.settings
  nextTick : ∀ due, p.nextTick? = some due → q.nextTick? = some due
  services : ∃ calls, p.services.Follows calls q.services

variable {p q : Pipeline} {watch attempt due : Nat}

namespace Works

theorem trans {r : Pipeline} (h : p.Works q) (h' : q.Works r) : p.Works r := by
  obtain ⟨calls, hcalls⟩ := h.services
  obtain ⟨calls', hcalls'⟩ := h'.services
  exact ⟨h'.settings.trans h.settings, fun due hdue ↦ h'.nextTick due (h.nextTick due hdue),
    calls ++ calls', hcalls.trans hcalls'⟩

theorem now_eq (h : p.Works q) : q.now = p.now := by
  obtain ⟨calls, hcalls⟩ := h.services
  exact hcalls.now_eq

end Works

/-! ## Errands -/

theorem works_cancel (p : Pipeline) (watch : Nat) : p.Works (p.cancel watch) :=
  ⟨rfl, fun _ h ↦ h, [], .watches _ (.refl _)⟩

theorem works_enter (p : Pipeline) (phase : Phase) : p.Works (p.enter phase) :=
  ⟨rfl, fun _ h ↦ h, [], .refl _⟩

theorem works_run {α : Type} (p : Pipeline) (j : Job α) : p.Works (p.run j).2 :=
  ⟨rfl, fun _ h ↦ h, _, Services.follows_run j p.services⟩

theorem works_perform {α : Type} (p : Pipeline) (w : Agent.Work α) : p.Works (p.perform w).2 :=
  ⟨rfl, fun _ h ↦ h, _, Services.follows_run (w.run p.agent) p.services⟩

theorem works_attemptFailed (p : Pipeline) (attempt : Nat) : p.Works (p.attemptFailed attempt) := by
  unfold attemptFailed
  split <;> exact works_enter _ _

theorem works_finish (p : Pipeline) (errand : Errand) : p.Works (p.finish errand) := by
  cases errand with
  | notice n watch? => exact works_enter _ _
  | tick watch? => exact works_enter _ _
  | bootstrap watch attempt =>
    unfold finish
    dsimp only
    split
    · exact works_enter _ _
    · next hticks =>
      split
      · exact works_enter _ _
      · -- the ticks begin here, so that there is no next tick yet
        refine ⟨rfl, fun due hdue ↦ ?_, [], .refl _⟩
        rw [hdue] at hticks
        exact absurd rfl hticks

theorem works_abandon (p : Pipeline) (errand : Errand) : p.Works (p.abandon errand) := by
  cases errand with
  | notice n watch? =>
    have hlater := works_perform p (Agent.retryLater n)
    unfold abandon
    dsimp only
    split
    · next hp =>
      rw [hp] at hlater
      exact hlater.trans (works_enter _ _)
    · next hp =>
      rw [hp] at hlater
      exact hlater.trans (works_enter _ _)
  | tick watch? => exact works_enter _ _
  | bootstrap watch attempt => exact (works_cancel p watch).trans (works_attemptFailed _ _)

theorem works_send (p : Pipeline) (batch : List Stage) (errand : Errand) :
    p.Works (p.send batch errand) := by
  unfold send
  split
  · next channel _ =>
    have hchannel : p.Works { p with channel } := ⟨rfl, fun _ h ↦ h, [], .refl _⟩
    exact hchannel.trans (works_finish _ _)
  · exact works_enter _ _
  · exact works_abandon _ _

theorem works_handle (p : Pipeline) (n : Notice) (watch? : Option Nat) :
    p.Works (p.handle n watch?) := by
  have hhandle := works_perform p (Agent.handle p.settings.maxEventRetries n)
  unfold handle
  split
  · next hp =>
    rw [hp] at hhandle
    exact hhandle.trans (works_send _ _ _)
  · next hp =>
    rw [hp] at hhandle
    exact hhandle.trans (works_enter _ _)

theorem works_tick (p : Pipeline) (watch? : Option Nat) : p.Works (p.tick watch?) :=
  (works_perform p Agent.tick).trans (works_send _ _ _)

theorem works_openWatch (p : Pipeline) (attempt : Nat) : p.Works (p.openWatch attempt) := by
  have hwatch := works_run p (.ask .watch)
  unfold openWatch
  split
  · next hp =>
    rw [hp] at hwatch
    exact hwatch.trans (works_attemptFailed _ _)
  · next p₁ hp =>
    rw [hp] at hwatch
    have hbootstrap := works_perform p₁ Agent.bootstrap.run
    split
    · next hp₁ =>
      rw [hp₁] at hbootstrap
      exact (hwatch.trans hbootstrap).trans (works_send _ _ _)
    · next hp₁ =>
      rw [hp₁] at hbootstrap
      exact ((hwatch.trans hbootstrap).trans (works_cancel _ _)).trans (works_attemptFailed _ _)

/-! ## Steps -/

/-- A tick is due: what is due leaves, and the next tick is put off. -/
structure Ticks (p q : Pipeline) : Prop where
  settings : q.settings = p.settings
  nextTick : ∃ due, p.nextTick? = some due ∧ due ≤ p.now ∧
    q.nextTick? = some (tickAfter p.settings.tickInterval.toNat due p.now)
  services : q.services = p.services.afterTick
  calls : ∃ calls, p.services.Follows calls q.services

theorem Ticks.now_eq (h : p.Ticks q) : q.now = p.now := by
  obtain ⟨calls, hcalls⟩ := h.calls
  exact hcalls.now_eq

theorem Ticks.of_tickStep? (h : p.tickStep? watch = some q) : p.Ticks q := by
  obtain ⟨due, hnext, hq⟩ := Option.bind_eq_some_iff.1 h
  split at hq
  · cases hq
  · next hdue =>
    cases hq
    have hworks := works_tick
      { p with nextTick? := some (tickAfter p.settings.tickInterval.toNat due p.now) } watch
    exact ⟨hworks.settings, ⟨due, hnext, Nat.not_lt.1 hdue, hworks.nextTick _ rfl⟩, services_tick,
      hworks.services⟩

theorem works_or_ticks_of_watchStep? (h : p.watchStep? watch = some q) : p.Works q ∨ p.Ticks q := by
  unfold watchStep? at h
  split at h
  · cases h
    exact .inl ((works_cancel p watch).trans (works_enter _ _))
  split at h
  · cases h
    exact .inl ((works_cancel p watch).trans (works_enter _ _))
  split at h
  · next n rest _ =>
    cases h
    have hnotice : p.Works (p.withRegistry fun r ↦ r.setWatch watch rest) :=
      ⟨rfl, fun _ h ↦ h, [], .watches _ (.refl _)⟩
    exact .inl (hnotice.trans (works_handle _ _ _))
  · cases h
    exact .inl ((works_cancel p watch).trans (works_openWatch _ _))
  · split at h
    · next n retries _ =>
      cases h
      have hretry : p.Works { p with agent := { p.agent with retries } } :=
        ⟨rfl, fun _ h ↦ h, [], .refl _⟩
      exact .inl (hretry.trans (works_handle _ _ _))
    · exact .inr (.of_tickStep? h)

/-- The agent works, or it ticks. -/
theorem works_or_ticks (h : p.agentStep? = some q) : p.Works q ∨ p.Ticks q := by
  unfold agentStep? at h
  split at h
  · exact works_or_ticks_of_watchStep? h
  · split at h
    · cases h
      exact .inl (works_enter _ _)
    · split at h
      · cases h
        exact .inl (works_openWatch _ _)
      · cases h
  · split at h
    · cases h
    · cases h
      exact .inl (works_send _ _ _)
  · cases h

theorem follows_of_agentStep? (h : p.agentStep? = some q) :
    ∃ calls, p.services.Follows calls q.services :=
  (works_or_ticks h).elim Works.services Ticks.calls

theorem works_of_committerStep? (h : p.committerStep? = some q) : p.Works q := by
  unfold committerStep? at h
  split at h
  · next segment segments _ =>
    cases h
    have hsegments : p.Works { p with segments } := ⟨rfl, fun _ h ↦ h, [], .refl _⟩
    exact hsegments.trans (works_run _ _)
  split at h
  · cases h
  split at h
  · cases h
    exact ⟨rfl, fun _ h ↦ h, [], .refl _⟩
  · obtain ⟨⟨batch, channel⟩, -, rfl⟩ := Option.map_eq_some_iff.1 h
    exact ⟨rfl, fun _ h ↦ h, [], .refl _⟩

/-- The agent watches, and has nothing to do but to tick. -/
structure Rests (p : Pipeline) (watch : Nat) : Prop where
  phase : p.phase = .watching watch
  running : p.isShutDown = false ∧ p.leaderLost = false
  quiet : p.services.registry.receive watch = .waiting
  waits : p.agent.retries.pop? p.now = none

theorem Rests.agentStep?_eq (h : p.Rests watch) : p.agentStep? = p.tickStep? watch := by
  unfold agentStep?
  rw [h.phase]
  dsimp only
  unfold watchStep?
  rw [h.running.1, h.running.2, h.quiet, h.waits]
  rfl

/-- Whatever the agent has to do comes before a tick. -/
theorem rests_of_agentStep?_eq_none (hphase : p.phase = .watching watch)
    (hidle : p.agentStep? = none) : p.Rests watch := by
  unfold agentStep? at hidle
  rw [hphase] at hidle
  dsimp only at hidle
  unfold watchStep? at hidle
  split at hidle
  · cases hidle
  next hshutDown =>
  split at hidle
  · cases hidle
  next hleaderLost =>
  split at hidle
  · cases hidle
  · cases hidle
  next hquiet =>
  split at hidle
  · cases hidle
  next hwaits =>
  exact ⟨hphase, ⟨Bool.eq_false_iff.2 hshutDown, Bool.eq_false_iff.2 hleaderLost⟩, hquiet, hwaits⟩

theorem tickStep?_eq_some (hnext : p.nextTick? = some due) (hdue : due ≤ p.now) :
    p.tickStep? watch = some ({ p with
      nextTick? := some (tickAfter p.settings.tickInterval.toNat due p.now) }.tick watch) := by
  rw [tickStep?, hnext]
  exact if_neg (Nat.not_lt.2 hdue)

/-- While the agent watches and has nothing to do, its next tick is ahead. -/
theorem now_lt_of_agentStep?_eq_none (hphase : p.phase = .watching watch)
    (hidle : p.agentStep? = none) (hnext : p.nextTick? = some due) : p.now < due := by
  have hrests := rests_of_agentStep?_eq_none hphase hidle
  rw [hrests.agentStep?_eq] at hidle
  rw [← Nat.not_le]
  intro hdue
  rw [tickStep?_eq_some hnext hdue] at hidle
  cases hidle

/-! ## Starts -/

/-- A start makes no stage wait, and takes none out. -/
theorem debouncer_bootstrap (a : AgentState) (s : Services) :
    ((Agent.bootstrap.run.run a).run Services.host s).2.debouncer = s.debouncer := by
  have hstages : Services.host.answer .stages s =
      (if s.faults.stages then .error Services.backendFault else .ok s.registry.store.stages, s) :=
    rfl
  rw [Agent.run_bootstrap_eq, Job.run_call, hstages]
  cases s.faults.stages with
  | true => rfl
  | false =>
    rw [if_neg Bool.false_ne_true]
    dsimp only
    rw [Job.run_call]
    have hprune := Batch.debouncer_answer
      (.prune ((s.registry.store.stages.map Stage.withoutReport).map Stage.key)) s
    split <;> exact hprune

theorem phase_attemptFailed_ne : (p.attemptFailed attempt).phase ≠ .watching watch := by
  unfold attemptFailed
  split <;> exact nofun

/-- After the batch of the first start the agent ticks at once. -/
theorem sent_bootstrap {batch : List Stage} {watch' : Nat} (hticks : p.nextTick? = none)
    (hphase : (p.send batch (.bootstrap watch attempt)).phase = .watching watch') :
    (p.send batch (.bootstrap watch attempt)).nextTick? = some p.now ∧
      (p.send batch (.bootstrap watch attempt)).services = p.services := by
  unfold send at hphase ⊢
  split at hphase
  · unfold finish at hphase ⊢
    dsimp only at hphase ⊢
    rw [hticks, Option.isSome_none, if_neg Bool.false_ne_true] at hphase ⊢
    split at hphase
    · cases hphase
    · next hinterval =>
      rw [if_neg hinterval]
      exact ⟨rfl, rfl⟩
  · cases hphase
  · exact absurd hphase phase_attemptFailed_ne

theorem opened_of_watching (hticks : p.nextTick? = none)
    (hphase : (p.openWatch attempt).phase = .watching watch) :
    (p.openWatch attempt).nextTick? = some p.now ∧
      (p.openWatch attempt).services.debouncer = p.services.debouncer := by
  have hticks₁ : (p.run (.ask .watch)).2.nextTick? = none := hticks
  have hnow₁ : (p.run (.ask .watch)).2.now = p.now := Services.now_answer p.services .watch
  have hwaits₁ : (p.run (.ask .watch)).2.services.debouncer = p.services.debouncer :=
    Batch.debouncer_answer .watch p.services
  unfold openWatch at hphase ⊢
  generalize p.run (.ask .watch) = opened at *
  obtain ⟨r, p₁⟩ := opened
  cases r with
  | error e => exact absurd hphase phase_attemptFailed_ne
  | ok w =>
    dsimp only at hphase hticks₁ hnow₁ hwaits₁ ⊢
    have hticks₂ : (p₁.perform Agent.bootstrap.run).2.nextTick? = none := hticks₁
    have hnow₂ : (p₁.perform Agent.bootstrap.run).2.now = p₁.now :=
      (Services.follows_run (Agent.bootstrap.run.run p₁.agent) p₁.services).now_eq
    have hwaits₂ : (p₁.perform Agent.bootstrap.run).2.services.debouncer = p₁.services.debouncer :=
      debouncer_bootstrap p₁.agent p₁.services
    generalize p₁.perform Agent.bootstrap.run = begun at *
    obtain ⟨r, p₂⟩ := begun
    cases r with
    | error e => exact absurd hphase phase_attemptFailed_ne
    | ok batch =>
      dsimp only at hphase hticks₂ hnow₂ hwaits₂ ⊢
      obtain ⟨hnext, hservices⟩ := sent_bootstrap hticks₂ hphase
      rw [hnext, hservices]
      exact ⟨congrArg some (hnow₂.trans hnow₁), hwaits₂.trans hwaits₁⟩

/-- With its first watch the agent ticks at once. No stage waits for that reason, and none that
waits leaves. -/
theorem started_of_watching (hticks : p.nextTick? = none)
    (hphase : p.start.phase = .watching watch) :
    p.start.nextTick? = some p.now ∧ p.start.services.debouncer = p.services.debouncer :=
  opened_of_watching (p := { p with committing := true }) hticks hphase

/-- A start is calls. -/
theorem works_start (p : Pipeline) : p.Works p.start :=
  { works_openWatch { p with committing := true } 1 with }

end Pipeline

end StageRelay
