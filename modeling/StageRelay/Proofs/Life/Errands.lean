import StageRelay.Pipeline.Basic
import StageRelay.Proofs.Life.Retries
import StageRelay.Proofs.Life.Services

/-!
# Errands of a pipeline

The agent of a pipeline lives a life: whatever an errand makes of the pipeline is a run of a life
whose calls the services answer, and whose batches go into the channel.
-/

namespace StageRelay

namespace Life

variable {l l' : Life} {p q : Pipeline} {trace events : List Event} {w : Piece} {job : Rest}
  {batch : List Stage} {errand : Errand}

/-! ## What a pipeline shows of a life -/

/-- The calls of some events. -/
def called (events : List Event) : List Answered :=
  events.filterMap fun
    | .act (.called x) => some x
    | _ => none

/-- The batches that the channel took. -/
def delivered (events : List Event) : List (List Stage) :=
  events.filterMap fun
    | .act (.sent batch true _) => some batch
    | _ => none

/-- The errand of a task. The token of a watch is newer than that of leadership. -/
inductive Runs (leader : Nat) : Errand → Task → Prop
  | notice {n : Notice} {number watch : Nat} :
    Runs leader (.notice n (some watch)) (.handling number n)
  | tick {watch : Nat} : Runs leader (.tick (some watch)) .ticking
  | bootstrap {watch attempt token : Nat} (ht : leader < token) :
    Runs leader (.bootstrap watch attempt) (.opening attempt token)

/-- What the agent is doing in a phase. -/
inductive Plays (leader : Nat) : Phase → Doing → Prop
  | fresh : Plays leader .idle .fresh
  | watching {watch : Nat} : Plays leader (.watching watch) .watching
  | sending {batch : List Stage} {errand : Errand} {w : Piece} (hw : Runs leader errand w.task) :
    Plays leader (.sending batch errand) (.sending w batch)
  | reopening {attempt time : Nat} :
    Plays leader (.reopening attempt time) (.pausing attempt time)
  | stopped : Plays leader .stopped (.ended (.ok ()))
  | failed {e : AgentError} : Plays leader (.failed e) (.ended (.error e))
  | crashed : Plays leader .crashed .crashed

/-- What a pipeline shows of a life but for what the agent is doing. A shutdown may count as a loss
of leadership, but not the other way round, and no token of a watch counts as either. -/
structure Bears (p : Pipeline) (l : Life) : Prop where
  settings : l.settings = p.settings
  now : l.now = p.now
  shutDown : l.isShutDown = p.isShutDown
  deposed : l.isShutDown = false → l.isDeposed = p.leaderLost
  apart : l.shutdown < l.leader
  ticks : l.ticks = p.nextTick?.isSome
  numbered : l.numbers.length = l.agent.retries.size
  issued : l.leader < l.tokens.size
  watch : ∀ token, l.watch? = some token → l.leader < token
  sound : l.Sound

/-- A pipeline shows a life. What the agent kept when it crashed does not matter. -/
structure Shows (p : Pipeline) (l : Life) : Prop extends Bears p l where
  agent : p.phase ≠ .crashed → l.agent = p.agent
  doing : Plays l.leader p.phase l.doing

/-- A life goes on as a pipeline does. -/
def Follows (p : Pipeline) (l : Life) (q : Pipeline) : Prop :=
  ∃ trace l', Run l trace l' ∧ Shows q l' ∧ p.services.Follows (called trace) q.services ∧
    q.channel.batches = p.channel.batches ++ delivered trace

theorem Follows.head {p₁ : Pipeline} {l₁ : Life} (hr : Run l trace l₁)
    (hcalls : p.services.Follows (called trace) p₁.services)
    (hbatches : p₁.channel.batches = p.channel.batches ++ delivered trace)
    (h : Follows p₁ l₁ q) : Follows p l q := by
  obtain ⟨rest, l', hrest, hshows, hcalls', hbatches'⟩ := h
  refine ⟨trace ++ rest, l', hr.trans hrest, hshows, ?_, ?_⟩
  · rw [called, List.filterMap_append]
    exact hcalls.trans hcalls'
  · rw [hbatches', hbatches, delivered, delivered, delivered, List.filterMap_append,
      List.append_assoc]

theorem Follows.refl (h : Shows p l) : Follows p l p :=
  ⟨[], l, .refl l, h, .refl _, (List.append_nil _).symm⟩

/-- A step in which nothing is called or sent, and what follows it. -/
theorem Follows.after {p₁ : Pipeline} {l₁ : Life} (hs : Step l events l₁)
    (hcalled : called events = []) (hdelivered : delivered events = [])
    (hservices : p.services.Follows [] p₁.services) (hchannel : p₁.channel = p.channel)
    (h : Follows p₁ l₁ q) : Follows p l q := by
  refine .head (.tail (.refl l) hs) ?_ ?_ h
  · rw [List.nil_append, hcalled]
    exact hservices
  · rw [List.nil_append, hdelivered, List.append_nil, hchannel]

/-- The agent works on its own. -/
theorem run_job {services : Services} (hd : l.doing = .working w job)
    (hnow : l.now = services.now) :
    Run l ((Services.callsOf job services).map fun x ↦ .act (.called x))
      (l.enter (.working (w.add ((Services.callsOf job services).map .called))
        (.done (job.run Services.host services).1))) := by
  refine run_calls hd (Job.reaches_run _ _ job services) ?_
  rw [hnow]
  exact Services.callsOf_timely job services

theorem called_calls (calls : List Answered) :
    called (calls.map fun x ↦ .act (.called x)) = calls := by
  induction calls with
  | nil => rfl
  | cons x calls ih => exact congrArg (x :: ·) ih

theorem delivered_calls (calls : List Answered) :
    delivered (calls.map fun x ↦ .act (.called x)) = [] := by
  induction calls with
  | nil => rfl
  | cons x calls ih => exact ih

/-! ## Moves -/

namespace Bears

theorem cancel {token : Nat} (h : Bears p l) (ht : l.leader < token) :
    Bears p { l with tokens := l.tokens.cancel token } where
  settings := h.settings
  now := h.now
  shutDown := (Tokens.isCancelled_cancel_of_lt (h.apart.trans ht)).trans h.shutDown
  deposed hs := by
    have hs : l.isShutDown = false := by
      rw [← hs]
      exact (Tokens.isCancelled_cancel_of_lt (h.apart.trans ht)).symm
    exact (Tokens.isCancelled_cancel_of_lt ht).trans (h.deposed hs)
  apart := h.apart
  ticks := h.ticks
  numbered := h.numbered
  issued := by
    rw [Tokens.size_cancel]
    exact h.issued
  watch := h.watch
  sound := h.sound

theorem enter {doing : Doing} (h : Bears p l) (phase : Phase) (hs : (l.enter doing).Sound) :
    Bears (p.enter phase) (l.enter doing) :=
  { h with sound := hs }

theorem stopWatch (h : Bears p l) : Bears p l.stopWatch := by
  unfold Life.stopWatch
  cases hw : l.watch? with
  | none => exact { h with watch := nofun }
  | some token => exact { h.cancel (h.watch token hw) with watch := nofun }

theorem attemptFailed {token : Nat} (h : Bears p l) (ha : l.agent = p.agent)
    (ht : l.leader < token) (attempt : Nat) :
    Shows (p.attemptFailed attempt) (l.attemptFailed attempt token).2 := by
  have hattempts : l.settings.attempts = p.settings.attempts := by rw [h.settings]
  have hpause : l.now + l.settings.retryDelayMillis = p.now + p.settings.retryDelayMillis := by
    rw [h.settings, h.now]
  unfold Life.attemptFailed Pipeline.attemptFailed
  dsimp only
  rw [hattempts, hpause]
  split
  · exact ⟨(h.cancel ht).enter _ trivial, fun _ ↦ ha, .reopening⟩
  · exact ⟨(h.cancel ht).enter _ trivial, fun _ ↦ ha, .failed⟩

theorem finish (h : Bears p l) (ha : l.agent = p.agent) (hw : Runs l.leader errand w.task) :
    Shows (p.finish errand) (l.finish w).2 := by
  generalize htask : w.task = task at hw
  have hwatching (watch : Nat) : Shows (p.enter (.watching watch)) (l.enter .watching) :=
    ⟨h.enter _ trivial, fun _ ↦ ha, .watching⟩
  cases hw with
  | @notice n number watch =>
    rw [Life.finish, htask]
    exact hwatching watch
  | @tick watch =>
    rw [Life.finish, htask]
    exact hwatching watch
  | @bootstrap watch attempt token ht =>
    have h' : Bears p { l with watch? := some token } :=
      { h with
        watch := by
          rintro _ ⟨⟩
          exact ht }
    rw [Life.finish, htask, Pipeline.finish]
    dsimp only
    -- the ticks began with an earlier watch, or begin with this one if they can
    by_cases hticks : p.nextTick?.isSome
    · rw [if_pos hticks, if_pos (h.ticks.trans hticks)]
      exact ⟨h'.enter (.watching watch) trivial, fun _ ↦ ha, .watching⟩
    · have hticks' : ¬ l.ticks = true := h.ticks ▸ hticks
      rw [if_neg hticks, if_neg hticks']
      by_cases hi : p.settings.tickInterval = 0
      · have hi' : l.settings.tickInterval = 0 := h.settings ▸ hi
        rw [if_pos hi, if_pos hi']
        exact ⟨h'.enter .crashed trivial, fun _ ↦ ha, .crashed⟩
      · have hi' : ¬ l.settings.tickInterval = 0 := h.settings ▸ hi
        rw [if_neg hi, if_neg hi']
        exact ⟨{ h' with ticks := rfl, sound := trivial }, fun _ ↦ ha, .watching⟩

/-- What a piece of work leaves is kept. -/
theorem keep {agent : AgentState} (h : Bears p l)
    (hd : l.doing = .working w (.done (.ok (.batch batch), agent))) :
    Bears p ((l.keep w.task agent).enter (.sending w batch)) := by
  have hsound := h.sound.step (.yield hd)
  refine { h with numbered := ?_, sound := hsound }
  have hnumbered := h.numbered
  obtain ⟨htimely, a, hunderway⟩ := (sound_working hd).1 h.sound
  show (l.numbers ++ w.task.number?.elim []
    (List.replicate (agent.retries.size - l.agent.retries.size))).length = agent.retries.size
  cases hnumber : w.task.number? with
  | none =>
    rw [hunderway.retries hnumber, Nat.sub_self, ← hnumbered]
    exact congrArg List.length (List.append_nil _)
  | some number =>
    -- a notice only ever makes the queue longer, so that the difference is what it added
    obtain ⟨n, hw⟩ := Task.of_number? hnumber
    rw [hw] at hunderway
    have hle := (hunderway.handles htimely.tells).size_le
    show (l.numbers ++ List.replicate _ number).length = _
    rw [List.length_append, List.length_replicate, hnumbered]
    omega

end Bears

/-! ## Errands -/

theorem perform_eq {α : Type} {work : Agent.Work α} {a : α} {agent : AgentState}
    {services : Services}
    (hrun : (work.run p.agent).run Services.host p.services = ((a, agent), services)) :
    p.perform work = (a, { p with services, agent }) := by
  rw [Pipeline.perform, Pipeline.run, hrun]

theorem called_delivery (batch : List Stage) (accepted : Bool) (time : Nat) :
    called ((delivery batch accepted time).map .act) = [] := by
  unfold delivery
  split <;> rfl

theorem Closes.called {ok : Bool} (h : Closes l w ok events l') : called events = [] := by
  cases h <;> rfl

theorem Closes.delivered {ok : Bool} (h : Closes l w ok events l') : delivered events = [] := by
  cases h <;> rfl

theorem finish_services (p : Pipeline) (errand : Errand) :
    (p.finish errand).services = p.services ∧ (p.finish errand).channel = p.channel := by
  unfold Pipeline.finish
  cases errand with
  | bootstrap watch attempt =>
    dsimp only
    split
    · exact ⟨rfl, rfl⟩
    · split <;> exact ⟨rfl, rfl⟩
  | _ => exact ⟨rfl, rfl⟩

theorem attemptFailed_services (p : Pipeline) (attempt : Nat) :
    (p.attemptFailed attempt).services = p.services ∧
      (p.attemptFailed attempt).channel = p.channel := by
  unfold Pipeline.attemptFailed
  split <;> exact ⟨rfl, rfl⟩

theorem send_batches {channel channel' : CommitChannel} (time : Nat)
    (hc : channel.send batch = .sent channel') :
    channel'.batches = channel.batches ++ delivered ((delivery batch true time).map .act) := by
  unfold CommitChannel.send at hc
  unfold delivery
  split at hc
  · next hb =>
    cases hc
    rw [if_pos hb]
    exact (List.append_nil _).symm
  · next hb =>
    rw [if_neg hb]
    split at hc
    · cases hc
    · split at hc <;> cases hc
      rfl

namespace Bears

/-- The channel takes a batch. -/
theorem sent {channel : CommitChannel} (h : Bears p l) (ha : l.agent = p.agent)
    (hd : l.doing = .sending w batch) (hw : Runs l.leader errand w.task)
    (hc : p.channel.send batch = .sent channel) :
    Follows p l ({ p with channel }.finish errand) := by
  have hbears : Bears { p with channel } l := { h with }
  have hcloses := finish_closes l (w.add (delivery batch true l.now))
  obtain ⟨hservices, hchannel⟩ := finish_services { p with channel } errand
  refine ⟨_, _, .tail (.refl l) (.send hd hc), hbears.finish ha hw, ?_, ?_⟩
  · rw [List.nil_append, called, List.filterMap_append]
    rw [← called, ← called, called_delivery, hcloses.called, hservices]
    exact .refl _
  · rw [List.nil_append, delivered, List.filterMap_append, ← delivered, ← delivered,
      hcloses.delivered, List.append_nil, hchannel]
    exact send_batches l.now hc

/-- The agent works on its own until its work is done. -/
theorem works {services : Services} {r : Except AgentError Agent.Handled × AgentState}
    (h : Bears p l) (hd : l.doing = .working w job)
    (hrun : job.run Services.host p.services = (r, services)) :
    let w' := w.add ((Services.callsOf job p.services).map .called)
    Bears { p with services, agent := r.2 } (l.enter (.working w' (.done r))) ∧
      Run l ((Services.callsOf job p.services).map fun x ↦ .act (.called x))
        (l.enter (.working w' (.done r))) ∧
      p.services.Follows (Services.callsOf job p.services) services := by
  intro w'
  have hr := run_job hd h.now
  have hfollows := Services.follows_run job p.services
  rw [hrun] at hr hfollows
  exact ⟨{ h with now := h.now.trans hfollows.now_eq.symm, sound := h.sound.run hr }, hr, hfollows⟩

/-- What follows when the work leaves a batch. -/
theorem yields {services : Services} {agent : AgentState} (h : Bears p l)
    (hd : l.doing = .working w job)
    (hrun : job.run Services.host p.services = ((.ok (.batch batch), agent), services))
    (hq : ∀ w', w'.task = w.task →
      Bears { p with services, agent } ((l.keep w.task agent).enter (.sending w' batch)) →
      Follows { p with services, agent } ((l.keep w.task agent).enter (.sending w' batch)) q) :
    Follows p l q := by
  obtain ⟨hbears, hr, hfollows⟩ := h.works hd hrun
  refine .head (hr.tail (.yield rfl)) ?_ ?_ (hq _ rfl (hbears.keep rfl))
  · rw [List.append_nil, called_calls]
    exact hfollows
  · rw [List.append_nil, delivered_calls, List.append_nil]

/-- What follows when the work crashes. -/
theorem crashes {services : Services} {agent : AgentState} (h : Bears p l)
    (hd : l.doing = .working w job)
    (hrun : job.run Services.host p.services = ((.ok .crashed, agent), services)) :
    Follows p l ({ p with services, agent }.enter .crashed) := by
  obtain ⟨hbears, hr, hfollows⟩ := h.works hd hrun
  have hshows : Shows ({ p with services, agent }.enter .crashed) (l.enter .crashed) :=
    ⟨hbears.enter .crashed trivial, fun hphase ↦ absurd rfl hphase, .crashed⟩
  refine .head (hr.tail (.crash rfl)) ?_ ?_ (.refl hshows)
  · rw [List.append_nil, called_calls]
    exact hfollows
  · rw [List.append_nil, delivered_calls, List.append_nil]
    rfl

/-- A notice is queued again by a piece of work that goes on. -/
theorem retriesLater {n : Notice} {number watch : Nat} (h : Bears p l)
    (hd : l.doing = .working w (later n p.agent)) (hw : w.task = .handling number n) :
    Follows p l (p.abandon (.notice n (some watch))) := by
  obtain ⟨⟨⟨x, agent⟩, services⟩, hrun⟩ :
    ∃ r, ((Agent.retryLater n).run p.agent).run Services.host p.services = r := ⟨_, rfl⟩
  have hlater : (later n p.agent).run Services.host p.services = ((.ok x, agent), services) := by
    rw [later, Job.run_bind, hrun]
    rfl
  unfold Pipeline.abandon
  dsimp only
  rw [perform_eq hrun]
  cases x with
  | crashed => exact h.crashes hd hlater
  | batch b =>
    obtain rfl : b = [] := by
      have hreaches := Job.reaches_run Services.host Services.now (later n p.agent) p.services
      rw [hlater] at hreaches
      exact batch_eq_nil hreaches
    refine h.yields hd hlater fun w' hw' hbears ↦ ?_
    have hruns : Runs l.leader (.notice n (some watch)) w'.task := by
      rw [hw', hw]
      exact .notice
    exact hbears.sent rfl rfl hruns rfl

/-- The channel refuses a batch. -/
theorem refused (h : Bears p l) (ha : l.agent = p.agent) (hd : l.doing = .sending w batch)
    (hw : Runs l.leader errand w.task) (hc : p.channel.send batch = .closed) :
    Follows p l (p.abandon errand) := by
  have hstep := Step.refuse hd hc
  have hcloses := abandon_closes l (w.add (delivery batch false l.now))
  have hcalled : called ((delivery batch false l.now).map .act ++
      (l.abandon (w.add (delivery batch false l.now))).1) = [] := by
    rw [called, List.filterMap_append]
    rw [← called, ← called, called_delivery, hcloses.called, List.append_nil]
  have hdelivered : delivered ((delivery batch false l.now).map .act ++
      (l.abandon (w.add (delivery batch false l.now))).1) = [] := by
    rw [delivered, List.filterMap_append, ← delivered, ← delivered, hcloses.delivered,
      List.append_nil, delivery_of_ne_nil (closed_ne_nil hc)]
    rfl
  have hsound := h.sound.step hstep
  -- from here on only the task of the piece matters, and the piece may be worked on again
  generalize hw' : w.add (delivery batch false l.now) = w' at hstep hcalled hdelivered hsound
  have htask' : w'.task = w.task := by rw [← hw']; rfl
  generalize htask : w.task = task at hw htask'
  cases hw with
  | @notice n number watch =>
    have habandon : (l.abandon w').2 = l.enter (.working w' (later n p.agent)) := by
      rw [Life.abandon, htask', ← ha]
    rw [habandon] at hstep hsound
    have hbears : Bears p (l.enter (.working w' (later n p.agent))) := { h with sound := hsound }
    exact .after hstep hcalled hdelivered (.refl _) rfl (hbears.retriesLater rfl htask')
  | @tick watch =>
    have habandon : (l.abandon w').2 = l.enter .watching := by rw [Life.abandon, htask']
    rw [habandon] at hstep
    have hshows : Shows (p.enter (.watching watch)) (l.enter .watching) :=
      ⟨h.enter (.watching watch) trivial, fun _ ↦ ha, .watching⟩
    exact .after hstep hcalled hdelivered (.refl _) rfl (.refl hshows)
  | @bootstrap watch attempt token ht =>
    have habandon : (l.abandon w').2 = (l.attemptFailed attempt token).2 := by
      rw [Life.abandon, htask']
    rw [habandon] at hstep
    have hcancel : Bears (p.cancel watch) l := { h with }
    obtain ⟨hservices, hchannel⟩ := attemptFailed_services (p.cancel watch) attempt
    have hgiven : p.services.Follows [] ((p.cancel watch).attemptFailed attempt).services := by
      rw [hservices]
      exact .watches _ (.refl _)
    have hshows := hcancel.attemptFailed ha ht attempt
    exact .after hstep hcalled hdelivered hgiven hchannel (.refl hshows)

/-- A batch is sent, or waits. -/
theorem sends (h : Bears p l) (ha : l.agent = p.agent) (hd : l.doing = .sending w batch)
    (hw : Runs l.leader errand w.task) : Follows p l (p.send batch errand) := by
  unfold Pipeline.send
  split
  · next channel hc => exact h.sent ha hd hw hc
  · have hplays : Plays l.leader (.sending batch errand) l.doing := by
      rw [hd]
      exact .sending hw
    have hshows : Shows (p.enter (.sending batch errand)) l := ⟨{ h with }, fun _ ↦ ha, hplays⟩
    exact ⟨[], l, .refl l, hshows, .refl _, (List.append_nil _).symm⟩
  · next hc => exact h.refused ha hd hw hc

/-! ## Pieces of work -/

theorem handles {n : Notice} {number watch : Nat} (h : Bears p l)
    (hd : l.doing = .working w
      (Task.job p.settings.maxEventRetries p.agent (.handling number n)))
    (hw : w.task = .handling number n) : Follows p l (p.handle n (some watch)) := by
  obtain ⟨⟨⟨x, agent⟩, services⟩, hrun⟩ :
    ∃ r, ((Agent.handle p.settings.maxEventRetries n).run p.agent).run Services.host
      p.services = r := ⟨_, rfl⟩
  have hjob : (Task.job p.settings.maxEventRetries p.agent (.handling number n)).run Services.host
      p.services = ((.ok x, agent), services) := by
    rw [Task.job, Job.run_bind, hrun]
    rfl
  unfold Pipeline.handle
  rw [perform_eq hrun]
  cases x with
  | crashed => exact h.crashes hd hjob
  | batch batch =>
    refine h.yields hd hjob fun w' hw' hbears ↦ ?_
    exact hbears.sends rfl rfl (by rw [hw', hw]; exact .notice)

theorem ticking {watch : Nat} (h : Bears p l)
    (hd : l.doing = .working w (Task.job p.settings.maxEventRetries p.agent .ticking))
    (hw : w.task = .ticking) : Follows p l (p.tick (some watch)) := by
  obtain ⟨⟨⟨batch, agent⟩, services⟩, hrun⟩ :
    ∃ r, (Agent.tick.run p.agent).run Services.host p.services = r := ⟨_, rfl⟩
  have hjob : (Task.job p.settings.maxEventRetries p.agent .ticking).run Services.host
      p.services = ((.ok (.batch batch), agent), services) := by
    rw [Task.job, Job.run_bind, hrun]
    rfl
  unfold Pipeline.tick
  rw [perform_eq hrun]
  refine h.yields hd hjob fun w' hw' hbears ↦ ?_
  exact hbears.sends rfl rfl (by rw [hw', hw]; exact .tick)

/-- An attempt to open a watch has failed. -/
theorem failed {services : Services} {e : AgentError} {attempt token : Nat} (h : Bears p l)
    (hd : l.doing = .working w (.done (.error e, p.agent))) (hw : w.task = .opening attempt token)
    (ht : l.leader < token) (hservices : p.services.Follows [] services) :
    Follows p l ({ p with services }.attemptFailed attempt) := by
  have hnumber : w.task.number? = none := by rw [hw]; rfl
  obtain ⟨-, a, hunderway⟩ := (sound_working hd).1 h.sound
  have hkept : Bears { p with services } ((l.keep w.task p.agent).enter .watching) :=
    { h with
      now := h.now.trans hservices.now_eq.symm
      numbered := by
        show (l.keep w.task p.agent).numbers.length = p.agent.retries.size
        rw [keep_numbers hnumber, hunderway.retries hnumber]
        exact h.numbered
      sound := trivial }
  have hcloses := abandon_closes (l.keep w.task p.agent) w
  have hend : ((l.keep w.task p.agent).abandon w).2 =
      (((l.keep w.task p.agent).enter .watching).attemptFailed attempt token).2 := by
    rw [← abandon_enter _ .watching, Life.abandon, hw]
  obtain ⟨hattempt, hchannel⟩ := attemptFailed_services { p with services } attempt
  have hshows := hkept.attemptFailed rfl ht attempt
  rw [← hend] at hshows
  exact .after (.fail hd) hcloses.called hcloses.delivered (hattempt ▸ hservices) hchannel
    (.refl hshows)

/-- An attempt to open a watch fails. -/
theorem fails {services services' : Services} {agent : AgentState} {e : AgentError}
    {attempt token : Nat} (h : Bears p l) (hd : l.doing = .working w job)
    (hrun : job.run Services.host p.services = ((.error e, agent), services))
    (hw : w.task = .opening attempt token) (ht : l.leader < token)
    (hservices : services.Follows [] services') :
    Follows p l ({ p with services := services', agent }.attemptFailed attempt) := by
  obtain ⟨hbears, hr, hfollows⟩ := h.works hd hrun
  refine .head hr ?_ ?_ (hbears.failed rfl hw ht hservices)
  · rw [called_calls]
    exact hfollows
  · rw [delivered_calls, List.append_nil]

/-- An attempt to open a watch. -/
theorem opens {attempt token : Nat} (h : Bears p l)
    (hd : l.doing = .working w
      (Task.job p.settings.maxEventRetries p.agent (.opening attempt token)))
    (hw : w.task = .opening attempt token) (ht : l.leader < token) :
    Follows p l (p.openWatch attempt) := by
  obtain ⟨⟨r, services⟩, hwatch⟩ : ∃ r, p.services.watch = r := ⟨_, rfl⟩
  have hanswer : Services.host.answer .watch p.services = (r, services) := hwatch
  cases r with
  | error e =>
    have hjob : (Task.job p.settings.maxEventRetries p.agent (.opening attempt token)).run
        Services.host p.services = ((.error (.registry e), p.agent), services) := by
      rw [Task.job, Agent.run_opening_eq_bootstrap, Job.run_bind, Job.run_call]
      simp [hanswer, Except.map]
    unfold Pipeline.openWatch Pipeline.run
    rw [Job.ask, Job.run_call, hanswer, Job.run_done]
    exact h.fails hd hjob hw ht (.refl _)
  | ok watch =>
    obtain ⟨⟨⟨r, agent⟩, services'⟩, hrun⟩ :
      ∃ r, (Agent.bootstrap.run.run p.agent).run Services.host services = r := ⟨_, rfl⟩
    have hjob : (Task.job p.settings.maxEventRetries p.agent (.opening attempt token)).run
        Services.host p.services = ((r.map .batch, agent), services') := by
      rw [Task.job, Agent.run_opening_eq_bootstrap, Job.run_bind, Job.run_call]
      show Job.run Services.host _ _ = _
      simp only [hanswer, hrun, Job.run_done]
    unfold Pipeline.openWatch Pipeline.run
    rw [Job.ask, Job.run_call, hanswer, Job.run_done]
    dsimp only
    rw [perform_eq hrun]
    cases r with
    | error e => exact h.fails hd hjob hw ht (.watches _ (.refl _))
    | ok batch =>
      refine h.yields hd hjob fun w' hw' hbears ↦ ?_
      exact hbears.sends rfl rfl (by rw [hw', hw]; exact .bootstrap ht)

/-! ## Beginnings -/

theorem openWatch (h : Bears p l) (attempt : Nat) : Bears p (l.openWatch attempt).2 where
  settings := h.settings
  now := h.now
  shutDown := (Tokens.isCancelled_make_of_lt (h.apart.trans h.issued)).trans h.shutDown
  deposed hs := by
    have hs : l.isShutDown = false := by
      rw [← hs]
      exact (Tokens.isCancelled_make_of_lt (h.apart.trans h.issued)).symm
    exact (Tokens.isCancelled_make_of_lt h.issued).trans (h.deposed hs)
  apart := h.apart
  ticks := h.ticks
  numbered := h.numbered
  issued := Nat.lt_succ_of_lt h.issued
  watch := h.watch
  sound := sound_take _ _

theorem opensWatch (h : Bears p l) (ha : l.agent = p.agent) (attempt : Nat) :
    Follows p (l.openWatch attempt).2 (p.openWatch attempt) := by
  have htask : (Piece.mk (.opening attempt l.tokens.size) l.now []).task =
    .opening attempt l.tokens.size := rfl
  refine (h.openWatch attempt).opens ?_ htask h.issued
  rw [← h.settings, ← ha]
  rfl

end Bears

end Life

end StageRelay
