import StageRelay.Pipeline.Clock
import StageRelay.Proofs.Life.Watches

/-!
# What happens once the agent is to stop

The tokens are looked at between pieces of work only, and the loss of leadership not at all while a
watch is opened anew. So what is under way goes on to its end, and a rebuild may make all the
attempts that are left to it. Nothing else is begun, and at most one more batch is sent.
-/

namespace StageRelay

/-- A call that opens a watch, or withdraws stages. -/
def Call.Reopens {β : Type} : Call β → Prop
  | .watch | .prune _ => True
  | _ => False

namespace Life

variable {l l' l'' : Life} {trace past rest events : List Event} {w : Piece} {most : UInt32}
  {task : Task} {a a' : AgentState} {acts : List Act} {job : Rest}

/-! ## Calls -/

/-- Only an attempt to open a watch opens one or withdraws stages. -/
theorem only_job (h : task.isOpening = false) :
    (task.job most a).Only fun c ↦ ¬ c.Reopens := by
  cases task with
  | opening attempt token => cases h
  | handling number n =>
    refine Job.only_bind ((Agent.handle_only most n a).mono fun c hc ↦ ?_) fun _ ↦ trivial
    cases c <;> first | exact id | exact fun _ ↦ hc
  | ticking =>
    refine Job.only_bind ((Agent.tick_only a).mono fun c hc ↦ ?_) fun _ ↦ trivial
    cases c <;> first | exact id | exact fun _ ↦ hc

theorem only_later (n : Notice) (a : AgentState) : (later n a).Only fun c ↦ ¬ c.Reopens := by
  refine Job.only_bind ((Agent.retryLater_only [] n a).mono fun c hc ↦ ?_) fun _ ↦ trivial
  cases c <;> first | exact id | exact fun _ ↦ hc

theorem Underway.only (h : Underway most task a acts a' job) (htask : task.isOpening = false) :
    job.Only fun c ↦ ¬ c.Reopens := by
  cases h with
  | first h => exact ((only_job htask).of_reaches h).2
  | again _ _ _ h => exact ((only_later _ _).of_reaches h).2

/-- Whether an event is a call that opens a watch or withdraws stages. -/
def Event.Reopens : Event → Prop
  | .act (.called x) => x.call.Reopens
  | _ => False

/-- Whether the channel takes a batch. -/
def Event.isDelivery : Event → Bool
  | .act (.sent _ accepted _) => accepted
  | _ => false

/-! ## What is left -/

/-- How many attempts to open a watch are left in a stance, without one that is under way. -/
def Stance.attemptsLeft (s : AgentSettings) : Stance → Nat
  | .fresh => s.attempts
  | .trying attempt _ => s.attempts - attempt
  | .pausing attempt _ => s.attempts + 1 - attempt
  | _ => 0

/-- How many attempts to open a watch are left. -/
def attemptsLeft (l : Life) : Nat :=
  l.stance.attemptsLeft l.settings

/-- How many batches may be sent until the agent waits for something to do. -/
def deliveriesLeft (l : Life) : Nat :=
  match l.doing with
  | .watching | .ended _ | .crashed => 0
  | _ => 1

/-- Whether no watch is being opened. -/
def Stance.Settled : Stance → Prop
  | .watching | .ended _ | .crashed => True
  | _ => False

/-- Whether the agent neither does nor will do anything. -/
def IsOver (l : Life) : Prop :=
  (∃ r, l.doing = .ended r) ∨ l.doing = .crashed

/-- What an agent returns that was to stop from some moment on. -/
inductive Returns (l l' : Life) : Except AgentError Unit → Prop
  | shutDown (hs : l'.isShutDown) : Returns l l' (.ok ())
  | deposed (hs : l.isShutDown = false) (hl : l'.isDeposed) :
    Returns l l' (.error .leadershipLost)
  /-- No attempt is left to a rebuild that was under way. -/
  | exhausted (hl : ¬ l.stance.Settled) :
    Returns l l' (.error (.watchExhausted l.settings.attempts))

/-- What an agent does from some moment on at which it is to stop. -/
structure WindsUp (l : Life) (rest : List Event) (l' : Life) : Prop where
  /-- No notice is taken up, and no tick. -/
  begun : ∀ w, .begun w ∈ rest → w.task.isOpening
  /-- There are no more attempts to open a watch than were left. -/
  attempts : (rest.filterMap Event.attempt?).length + l'.attemptsLeft ≤ l.attemptsLeft
  rebuilding : .rebuilding ∈ rest → l.doing = .fresh
  /-- Unless a watch is being opened none is opened, and nothing is withdrawn. -/
  settled : l.stance.Settled → ∀ e ∈ rest, ¬ e.Reopens
  /-- At most one batch is taken. -/
  sent : rest.countP Event.isDelivery + l'.deliveriesLeft ≤ l.deliveriesLeft
  paused : ∀ attempt time, l.doing = .pausing attempt time → ∀ w, .begun w ∈ rest → time ≤ w.began
  /-- An agent that waits for something to do does nothing any more. -/
  waiting : l.doing = .watching → ∀ e ∈ rest, ∃ r, e = .returned r
  returned : ∀ r, .returned r ∈ rest → Returns l l' r
  cancelled : ∀ r, l'.doing = .ended r → ∀ t ∈ l'.issued, l'.tokens.isCancelled t
  /-- It can be brought to its end. -/
  ends : ∃ trace l'', Run l' trace l'' ∧ l''.IsOver

/-! ## Steps -/

theorem Goes.isShutDown (h : Goes l l') (hs : l.isShutDown) : l'.isShutDown := by
  rw [Life.isShutDown, h.shutdown]
  exact h.tokens.cancelled _ hs

theorem Goes.isDeposed (h : Goes l l') (hl : l.isDeposed) : l'.isDeposed := by
  rw [Life.isDeposed, h.leader]
  exact h.tokens.cancelled _ hl

/-- An agent that is to stop is to stop for good. -/
theorem Goes.isCancelled (h : Goes l l') (hc : l.isCancelled) : l'.isCancelled := by
  rcases Bool.or_eq_true_iff.1 hc with hs | hl
  · exact Bool.or_eq_true_iff.2 (.inl (h.isShutDown hs))
  · exact Bool.or_eq_true_iff.2 (.inr (h.isDeposed hl))

theorem Turns.settled (ht : Turns l events l') (hc : l.isCancelled) (hs : l.stance.Settled) :
    l'.stance.Settled := by
  cases ht with
  | aside _ _ hstance _ _ =>
    rw [hstance]
    exact hs
  | rebuilds hstance hd =>
    rcases hstance with hstance | ⟨-, hnot⟩
    · rw [hstance] at hs
      cases hs
    · rw [hc] at hnot
      cases hnot
  | reopens hstance _ _ | opens hstance _ _ | fails hstance _ _ =>
    rw [hstance] at hs
    cases hs
  | exhausts _ _ _ | crashes _ | quits _ _ | stops _ _ => trivial

theorem Turns.begun (ht : Turns l events l') (hc : l.isCancelled) (hw : .begun w ∈ events) :
    w.task.isOpening := by
  cases ht with
  | aside _ hbegun _ _ _ =>
    rw [hc] at hbegun
    exact absurd (hbegun w hw) (by simp)
  | rebuilds _ _ =>
    obtain rfl : w = _ := by simpa using hw
    rfl
  | reopens _ _ _ =>
    obtain rfl : w = _ := by simpa using hw
    rfl
  | _ => simp at hw

theorem filterMap_attempt?_acts (acts : List Act) :
    (acts.map Event.act).filterMap Event.attempt? = [] := by
  refine List.filterMap_eq_nil_iff.2 fun e he ↦ ?_
  obtain ⟨x, -, rfl⟩ := List.mem_map.1 he
  rfl

/-- An attempt that is begun is one less that is left. -/
theorem Turns.attempts (ht : Turns l events l') (hgoes : Goes l l') (hc : l.isCancelled)
    {begun : List Piece} {ended : List Finished} (ha : Accounted l begun ended) :
    (events.filterMap Event.attempt?).length + l'.attemptsLeft ≤ l.attemptsLeft := by
  cases ht with
  | aside hevents _ hstance _ _ =>
    rw [List.filterMap_eq_nil_iff.2 fun e he ↦ (hevents e he).attempt?_eq, attemptsLeft, hstance,
      hgoes.settings, List.length_nil, Nat.zero_add, attemptsLeft]
  | @rebuilds doing hstance hd =>
    rcases hstance with hstance | ⟨-, hnot⟩
    · show 1 + doing.stance.attemptsLeft l.settings ≤ l.stance.attemptsLeft l.settings
      rw [hd, hstance]
      have hone := l.settings.one_le_attempts
      simp only [Stance.attemptsLeft]
      omega
    · rw [hc] at hnot
      cases hnot
  | @reopens attempt time doing hstance hle hd =>
    have htried := ha.tried
    rw [hstance] at htried
    have hmost : attempt ≤ l.settings.attempts := htried.1
    show 1 + doing.stance.attemptsLeft l.settings ≤ l.stance.attemptsLeft l.settings
    rw [hd, hstance]
    simp only [Stance.attemptsLeft]
    omega
  | @opens w attempt token acts doing ticks hstance hw hd =>
    rw [List.filterMap_append, filterMap_attempt?_acts]
    show 0 + doing.stance.attemptsLeft l.settings ≤ _
    rcases hd with hd | hd <;> simp [hd, Stance.attemptsLeft]
  | fails hstance hw hlt =>
    rw [List.filterMap_append, filterMap_attempt?_acts, attemptsLeft, attemptsLeft, hstance]
    show 0 + (l.settings.attempts + 1 - (_ + 1)) ≤ l.settings.attempts - _
    omega
  | exhausts hstance hw hge =>
    rw [List.filterMap_append, filterMap_attempt?_acts]
    exact Nat.zero_le _
  | crashes _ | quits _ _ | stops _ _ => exact Nat.zero_le _

theorem Turns.rebuilding (ht : Turns l events l') (hc : l.isCancelled)
    (he : .rebuilding ∈ events) : l.stance = .fresh := by
  cases ht with
  | aside hevents _ _ _ _ => cases hevents _ he
  | rebuilds hstance hd =>
    refine hstance.resolve_right fun h ↦ ?_
    rw [hc] at h
    cases h.2
  | _ => simp at he

theorem Turns.returned {r : Except AgentError Unit} (ht : Turns l events l')
    (hr : .returned r ∈ events) : Returns l l' r := by
  cases ht with
  | aside hevents _ _ _ _ => cases hevents _ hr
  | exhausts hstance hw hge =>
    obtain rfl : r = _ := by simpa using hr
    exact .exhausted (by simp [hstance, Stance.Settled])
  | quits hstance hs =>
    obtain rfl : r = _ := by simpa using hr
    exact .shutDown hs
  | stops hstance hstops =>
    obtain rfl : r = _ := by simpa using hr
    have hgoes := goes_stopWatch l
    cases hstops with
    | shutDown hs => exact .shutDown (hgoes.isShutDown hs)
    | deposed hs hl => exact .deposed hs (hgoes.isDeposed hl)
  | _ => simp at hr

/-- Other work opens no watch. -/
theorem Step.reopens (hs : Step l events l') (h : l.Sound) (hset : l.stance.Settled) :
    ∀ e ∈ events, ¬ e.Reopens := by
  have hdelivery (batch : List Stage) (accepted : Bool) (time : Nat) :
      ∀ e ∈ (delivery batch accepted time).map Event.act, ¬ e.Reopens := by
    unfold delivery
    split <;> simp [Event.Reopens]
  have hcloses {x x' : Life} {w : Piece} {ok : Bool} {events : List Event}
      (h : Closes x w ok events x') : ∀ e ∈ events, ¬ e.Reopens := by
    cases h <;> simp [Event.Reopens]
  cases hs with
  | @call w β c next hd b hb =>
    obtain ⟨-, a, h⟩ := (sound_working hd).1 h
    have hw : w.task.isOpening = false := by
      rw [stance, hd] at hset
      cases hw : w.task with
      | opening attempt token =>
        rw [Doing.stance, hw] at hset
        cases hset
      | _ => rfl
    exact List.forall_mem_singleton.2 (h.only hw).1
  | fail hd => exact hcloses (abandon_closes _ _)
  | send hd hc =>
    exact List.forall_mem_append.2 ⟨hdelivery _ _ _, hcloses (finish_closes _ _)⟩
  | refuse hd hc =>
    exact List.forall_mem_append.2 ⟨hdelivery _ _ _, hcloses (abandon_closes _ _)⟩
  | hear _ _ n => exact List.forall_mem_singleton.2 id
  | retry _ _ _ _ _ => exact List.forall_mem_singleton.2 id
  | _ => simp [Event.Reopens, rebuild, openWatch, take, leave]

theorem countP_delivery (batch : List Stage) (accepted : Bool) (time : Nat) :
    ((delivery batch accepted time).map Event.act).countP Event.isDelivery ≤ accepted.toNat := by
  unfold delivery
  split
  · exact Nat.zero_le _
  · cases accepted <;> simp [Event.isDelivery]

theorem Closes.countP_eq_zero {ok : Bool} (h : Closes l w ok events l') :
    events.countP Event.isDelivery = 0 := by
  cases h <;> simp [Event.isDelivery]

/-- After a batch was taken the agent waits for something to do. -/
theorem Closes.deliveriesLeft {ok : Bool} (h : Closes l w ok events l') :
    l'.deliveriesLeft ≤ (!ok).toNat := by
  cases h with
  | back hw hok => exact Nat.zero_le _
  | _ => simp [Life.deliveriesLeft]

theorem Step.sent (hs : Step l events l') (hc : l.isCancelled) :
    events.countP Event.isDelivery + l'.deliveriesLeft ≤ l.deliveriesLeft := by
  have hnot (h : l.isCancelled = false) : False := by
    rw [hc] at h
    cases h
  cases hs with
  | pass _ | cancel _ | subscribe _ => exact (Nat.zero_add _).le
  | start hd | call hd b hb | yield hd | crash hd | wake hd ht | quit hd hs | stop hd hs
  | stepDown hd hs hl =>
    simp [deliveriesLeft, hd, Event.isDelivery, rebuild, openWatch, take, enter, leave]
  | lose hd h | hear hd h n | retry hd h he hn ht | tick hd h => exact (hnot h).elim
  | @fail w e agent hd =>
    have hcloses := abandon_closes (l.keep w.task agent) w
    have hone : l.deliveriesLeft = 1 := by rw [deliveriesLeft, hd]
    rw [hcloses.countP_eq_zero, Nat.zero_add, hone]
    exact hcloses.deliveriesLeft
  | @send w batch channel channel' hd _ =>
    have hcloses := finish_closes l (w.add (delivery batch true l.now))
    have hone : l.deliveriesLeft = 1 := by rw [deliveriesLeft, hd]
    have hdelivery := countP_delivery batch true l.now
    have hleft := hcloses.deliveriesLeft
    rw [List.countP_append, hcloses.countP_eq_zero, hone]
    exact Nat.add_le_add hdelivery hleft
  | @refuse w batch channel hd _ =>
    have hcloses := abandon_closes l (w.add (delivery batch false l.now))
    have hone : l.deliveriesLeft = 1 := by rw [deliveriesLeft, hd]
    have hdelivery := countP_delivery batch false l.now
    have hleft := hcloses.deliveriesLeft
    rw [List.countP_append, hcloses.countP_eq_zero, hone]
    exact Nat.add_le_add hdelivery hleft

/-! ## Ends -/

theorem exists_tells {β : Type} (c : Call β) (now : Nat) : ∃ b, c.Tells now b := by
  refine ⟨(Services.answer c { now }).1, ?_⟩
  cases c with
  | clock => rfl
  | _ => trivial

/-- Any work can be finished. -/
theorem exists_reaches_done (job : Rest) (now : Nat) : ∃ calls result agent,
    job.Reaches calls (.done (result, agent)) ∧
      ∀ x ∈ calls, x.time = now ∧ x.call.Tells now x.answer := by
  induction job with
  | done x => exact ⟨[], x.1, x.2, .refl _, List.forall_mem_nil _⟩
  | call c next ih =>
    obtain ⟨b, hb⟩ := exists_tells c now
    obtain ⟨calls, result, agent, hreaches, hcalls⟩ := ih b
    exact ⟨⟨c, b, now⟩ :: calls, result, agent, .call hreaches,
      List.forall_mem_cons.2 ⟨⟨rfl, hb⟩, hcalls⟩⟩

theorem exists_run_watching (hd : l.doing = .watching) (hc : l.isCancelled) :
    ∃ trace l', Run l trace l' ∧ l'.IsOver := by
  by_cases hs : l.isShutDown
  · exact ⟨_, _, .head (.stop hd hs) (.refl _), .inl ⟨_, rfl⟩⟩
  · have hl : l.isDeposed := by
      simpa [Life.isCancelled, hs] using hc
    exact ⟨_, _, .head (.stepDown hd (by simpa using hs) hl) (.refl _), .inl ⟨_, rfl⟩⟩

theorem exists_sent (batch : List Stage) :
    ∃ channel channel' : CommitChannel, channel.send batch = .sent channel' := by
  refine ⟨{ capacity := 1 }, ?_⟩
  unfold CommitChannel.send
  by_cases hempty : batch.isEmpty
  · exact ⟨_, if_pos hempty⟩
  · exact ⟨_, if_neg hempty⟩

theorem exists_run_sending {batch : List Stage} (hd : l.doing = .sending w batch)
    (hc : l.isCancelled) : ∃ trace l', Run l trace l' ∧ l'.IsOver := by
  obtain ⟨channel, channel', hchannel⟩ := exists_sent batch
  have hstep := Step.send hd hchannel
  have hcancelled := hstep.goes.isCancelled hc
  have hcloses := finish_closes l (w.add (delivery batch true l.now))
  generalize (l.finish (w.add (delivery batch true l.now))).1 = events,
    (l.finish (w.add (delivery batch true l.now))).2 = x at hcloses hstep hcancelled
  have hover : x.doing = .watching ∨ x.doing = .crashed := by
    cases hcloses with
    | stalled _ _ => exact .inr rfl
    | _ => exact .inl rfl
  rcases hover with hover | hover
  · obtain ⟨trace, l', hrun, hl'⟩ := exists_run_watching hover hcancelled
    exact ⟨_, l', .head hstep hrun, hl'⟩
  · exact ⟨_, _, .head hstep (.refl _), .inr hover⟩

/-- An attempt to open a watch can succeed, and then the agent stops. -/
theorem exists_run_opening {attempt token : Nat}
    (hd : l.doing = .working w (Task.job most a (.opening attempt token))) (hc : l.isCancelled) :
    ∃ trace l', Run l trace l' ∧ l'.IsOver := by
  have hopens : Agent.Opens a
    [⟨.watch, .ok 0, l.now⟩, ⟨.stages, .ok [], l.now⟩, ⟨.prune [], .ok (), l.now⟩] _ _ := .opened
  have hrun := run_calls hd (job_opening_reaches hopens) (by simp [Call.Tells])
  have hstep := hrun.tail (.yield rfl)
  obtain ⟨trace, l', hrun', hl'⟩ := exists_run_sending rfl (hstep.goes.isCancelled hc)
  exact ⟨_, l', hstep.trans hrun', hl'⟩

/-- A rebuild that goes on can succeed. -/
theorem exists_run_pausing {attempt time : Nat} (hd : l.doing = .pausing attempt time)
    (hc : l.isCancelled) : ∃ trace l', Run l trace l' ∧ l'.IsOver := by
  -- a shutdown need not be noticed here, as the pause is over at the same time
  have hpass : Step l [] { l with now := max l.now time } := .pass (le_max_left _ _)
  have hwake := (Run.tail (.refl l) hpass).tail (.wake hd (le_max_right _ _))
  obtain ⟨trace, l', hrun, hl'⟩ := exists_run_opening rfl (hwake.goes.isCancelled hc)
  exact ⟨_, l', hwake.trans hrun, hl'⟩

/-- An attempt that failed is followed by another one, or by the end. -/
theorem exists_run_failed {e : AgentError} {agent : AgentState}
    (hd : l.doing = .working w (.done (.error e, agent))) (h : l.Sound) (hc : l.isCancelled) :
    ∃ trace l', Run l trace l' ∧ l'.IsOver := by
  obtain ⟨-, a, h⟩ := (sound_working hd).1 h
  obtain ⟨attempt, token, hw⟩ := h.of_failed
  have hstep := Step.fail hd
  have hcancelled := hstep.goes.isCancelled hc
  have hcloses := abandon_closes (l.keep w.task agent) w
  generalize ((l.keep w.task agent).abandon w).1 = events,
    ((l.keep w.task agent).abandon w).2 = x at hcloses hstep hcancelled
  have hturn : (∃ attempt time, x.doing = .pausing attempt time) ∨ x.IsOver := by
    cases hcloses with
    | paused _ _ => exact .inl ⟨_, _, rfl⟩
    | exhausted _ _ => exact .inr (.inl ⟨_, rfl⟩)
    | again hw' =>
      rw [hw] at hw'
      cases hw'
    | back hw' _ =>
      rw [hw] at hw'
      cases hw'
  rcases hturn with ⟨attempt, time, hx⟩ | hover
  · obtain ⟨trace, l', hrun, hl'⟩ := exists_run_pausing hx hcancelled
    exact ⟨_, l', .head hstep hrun, hl'⟩
  · exact ⟨_, x, .head hstep (.refl x), hover⟩

/-- Whatever an agent does when it is to stop, it can be brought to its end. -/
theorem exists_run_over (h : l.Sound) (hc : l.isCancelled) :
    ∃ trace l', Run l trace l' ∧ l'.IsOver := by
  cases hd : l.doing with
  | fresh =>
    have hstart := Run.tail (.refl l) (.start hd)
    obtain ⟨trace, l', hrun, hl'⟩ := exists_run_opening rfl (hstart.goes.isCancelled hc)
    exact ⟨_, l', hstart.trans hrun, hl'⟩
  | working w job =>
    obtain ⟨calls, result, agent, hreaches, hcalls⟩ := exists_reaches_done job l.now
    have hrun := run_calls hd hreaches hcalls
    cases result with
    | error e =>
      have hcancelled := hrun.goes.isCancelled hc
      obtain ⟨trace, l', hrun', hl'⟩ := exists_run_failed rfl (h.run hrun) hcancelled
      exact ⟨_, l', hrun.trans hrun', hl'⟩
    | ok handled =>
      cases handled with
      | crashed => exact ⟨_, _, hrun.tail (.crash rfl), .inr rfl⟩
      | batch stages =>
        have hstep := hrun.tail (.yield rfl)
        obtain ⟨trace, l', hrun', hl'⟩ := exists_run_sending rfl (hstep.goes.isCancelled hc)
        exact ⟨_, l', hstep.trans hrun', hl'⟩
  | sending w batch => exact exists_run_sending hd hc
  | pausing attempt time => exact exists_run_pausing hd hc
  | watching => exact exists_run_watching hd hc
  | ended r => exact ⟨_, l, .refl l, .inl ⟨r, hd⟩⟩
  | crashed => exact ⟨_, l, .refl l, .inr hd⟩

/-! ## Winding up -/

section Runs

variable {l₀ : Life} (hf : l₀.IsFresh) (hp : Run l₀ past l) (hc : l.isCancelled)
include hf hp hc

theorem run_begun (hr : Run l rest l') : ∀ w, .begun w ∈ rest → w.task.isOpening := by
  induction hr with
  | refl => exact nofun
  | tail hr hs ih =>
    intro w hw
    rcases List.mem_append.1 hw with hw | hw
    · exact ih w hw
    · exact (hs.turns ((hp.trans hr).sound hf)).begun (hr.goes.isCancelled hc) hw

theorem run_attempts (hr : Run l rest l') :
    (rest.filterMap Event.attempt?).length + l'.attemptsLeft ≤ l.attemptsLeft := by
  induction hr with
  | refl => exact (Nat.zero_add _).le
  | tail hr hs ih =>
    have hstep := (hs.turns ((hp.trans hr).sound hf)).attempts hs.goes (hr.goes.isCancelled hc)
      ((hp.trans hr).accounted hf)
    rw [List.filterMap_append, List.length_append]
    omega

theorem run_settled (hr : Run l rest l') (hset : l.stance.Settled) :
    l'.stance.Settled ∧ ∀ e ∈ rest, ¬ e.Reopens := by
  induction hr with
  | refl => exact ⟨hset, List.forall_mem_nil _⟩
  | tail hr hs ih =>
    have hsound := (hp.trans hr).sound hf
    exact ⟨(hs.turns hsound).settled (hr.goes.isCancelled hc) ih.1,
      List.forall_mem_append.2 ⟨ih.2, hs.reopens hsound ih.1⟩⟩

theorem run_returned (hr : Run l rest l') :
    ∀ r, .returned r ∈ rest → Returns l l' r := by
  induction hr with
  | refl => exact nofun
  | @tail l' l'' rest events hr hs ih =>
    intro r hmem
    rcases List.mem_append.1 hmem with hmem | hmem
    · cases ih r hmem with
      | shutDown hshut => exact .shutDown (hs.goes.isShutDown hshut)
      | deposed hshut hl => exact .deposed hshut (hs.goes.isDeposed hl)
      | exhausted hset => exact .exhausted hset
    · have hsound := (hp.trans hr).sound hf
      cases (hs.turns hsound).returned hmem with
      | shutDown hshut => exact .shutDown hshut
      | deposed hshut hl =>
        refine .deposed ?_ hl
        -- a shutdown that came before would have been noticed first
        by_contra hnot
        rw [hr.goes.isShutDown (by simpa using hnot)] at hshut
        cases hshut
      | exhausted hset =>
        rw [hr.goes.settings]
        exact .exhausted fun h ↦ hset (run_settled hf hp hc hr h).1

end Runs

theorem run_sent (hc : l.isCancelled) (hr : Run l rest l') :
    rest.countP Event.isDelivery + l'.deliveriesLeft ≤ l.deliveriesLeft := by
  induction hr with
  | refl => exact (Nat.zero_add _).le
  | tail hr hs ih =>
    have hstep := hs.sent (hr.goes.isCancelled hc)
    rw [List.countP_append]
    omega

theorem stance_eq_fresh_iff : l.stance = .fresh ↔ l.doing = .fresh := by
  unfold stance
  cases l.doing with
  | working w job => cases hw : w.task <;> simp [Doing.stance, Task.stance, hw]
  | sending w batch => cases hw : w.task <;> simp [Doing.stance, Task.stance, hw]
  | _ => simp [Doing.stance]

/-- An agent is started once only. -/
theorem Turns.fresh (ht : Turns l events l') (hfresh : l'.stance = .fresh) :
    l.stance = .fresh := by
  cases ht with
  | aside _ _ hstance _ _ => exact hstance.symm.trans hfresh
  | rebuilds _ hd | reopens _ _ hd => simp [stance, hd] at hfresh
  | opens _ _ hd => rcases hd with hd | hd <;> simp [stance, hd] at hfresh
  | fails _ _ _ | exhausts _ _ _ | crashes _ | quits _ _ | stops _ _ => cases hfresh

theorem run_rebuilding {l₀ : Life} (hf : l₀.IsFresh) (hp : Run l₀ past l) (hc : l.isCancelled)
    (hr : Run l rest l') : (.rebuilding ∈ rest → l.doing = .fresh) ∧
      (l'.stance = .fresh → l.stance = .fresh) := by
  induction hr with
  | refl => exact ⟨nofun, id⟩
  | tail hr hs ih =>
    have hturns := hs.turns ((hp.trans hr).sound hf)
    refine ⟨fun hmem ↦ ?_, fun h ↦ ih.2 (hturns.fresh h)⟩
    rcases List.mem_append.1 hmem with hmem | hmem
    · exact ih.1 hmem
    · exact stance_eq_fresh_iff.1 (ih.2 (hturns.rebuilding (hr.goes.isCancelled hc) hmem))

/-- An agent that returned does nothing. -/
theorem Step.of_ended {r : Except AgentError Unit} (hs : Step l events l')
    (hd : l.doing = .ended r) : events = [] ∧ l'.doing = .ended r := by
  cases hs with
  | pass _ | cancel _ | subscribe _ => exact ⟨rfl, hd⟩
  | _ => simp_all

/-- An agent that waits for something to do returns when it is to stop. -/
theorem run_waiting (hc : l.isCancelled) (hd : l.doing = .watching) (hr : Run l rest l') :
    (l'.doing = .watching ∨ ∃ r, l'.doing = .ended r) ∧ ∀ e ∈ rest, ∃ r, e = .returned r := by
  induction hr with
  | refl => exact ⟨.inl hd, List.forall_mem_nil _⟩
  | @tail l' l'' rest events hr hs ih =>
    have hc' := hr.goes.isCancelled hc
    obtain ⟨hd' | ⟨r, hd'⟩, hrest⟩ := ih
    · have hstep : (l''.doing = .watching ∨ ∃ r, l''.doing = .ended r) ∧
          ∀ e ∈ events, ∃ r, e = .returned r := by
        cases hs with
        | pass _ | cancel _ | subscribe _ => exact ⟨.inl hd', List.forall_mem_nil _⟩
        | stop _ _ => exact ⟨.inr ⟨_, rfl⟩, List.forall_mem_singleton.2 ⟨_, rfl⟩⟩
        | stepDown _ _ _ => exact ⟨.inr ⟨_, rfl⟩, List.forall_mem_singleton.2 ⟨_, rfl⟩⟩
        | _ => simp_all
      exact ⟨hstep.1, List.forall_mem_append.2 ⟨hrest, hstep.2⟩⟩
    · obtain ⟨rfl, hd''⟩ := hs.of_ended hd'
      rw [List.append_nil]
      exact ⟨.inr ⟨r, hd''⟩, hrest⟩

theorem Step.began (hs : Step l events l') (hw : .begun w ∈ events) : w.began = l.now := by
  have hcloses {x x' : Life} {v : Piece} {ok : Bool} {events : List Event}
      (h : Closes x v ok events x') : .begun w ∉ events := by
    cases h <;> simp
  cases hs with
  | fail hd => exact absurd hw (hcloses (abandon_closes _ _))
  | send hd hc => exact absurd hw (by simpa using hcloses (finish_closes _ _))
  | refuse hd hc => exact absurd hw (by simpa using hcloses (abandon_closes _ _))
  | start _ | lose _ _ =>
    obtain rfl : w = _ := by simpa [rebuild, Life.openWatch, Life.take] using hw
    rfl
  | wake _ _ | hear _ _ _ | retry _ _ _ _ _ | tick _ _ =>
    cases List.mem_singleton.1 hw
    rfl
  | _ => simp [leave] at hw

/-- Nothing is begun before a pause is over. -/
theorem run_paused {attempt time : Nat} (hd : l.doing = .pausing attempt time)
    (hr : Run l rest l') :
    (l'.doing = .pausing attempt time ∨ time ≤ l'.now ∨ ∃ r, l'.doing = .ended r) ∧
      ∀ w, .begun w ∈ rest → time ≤ w.began := by
  induction hr with
  | refl => exact ⟨.inl hd, nofun⟩
  | @tail l' l'' rest events hr hs ih =>
    obtain ⟨hpause, hrest⟩ := ih
    have hevents : ∀ w, .begun w ∈ events → time ≤ w.began := by
      intro w hw
      rw [hs.began hw]
      rcases hpause with hd' | hle | ⟨r, hd'⟩
      · cases hs with
        | wake hd'' ht =>
          cases hd'.symm.trans hd''
          exact ht
        | quit _ _ => cases List.mem_singleton.1 hw
        | _ => simp_all
      · exact hle
      · rw [(hs.of_ended hd').1] at hw
        cases hw
    refine ⟨?_, fun w hw ↦ (List.mem_append.1 hw).elim (hrest w) (hevents w)⟩
    rcases hpause with hd' | hle | ⟨r, hd'⟩
    · cases hs with
      | pass _ | cancel _ | subscribe _ => exact .inl hd'
      | wake hd'' ht =>
        cases hd'.symm.trans hd''
        exact .inr (.inl ht)
      | quit _ _ => exact .inr (.inr ⟨_, rfl⟩)
      | _ => simp_all
    · exact .inr (.inl (hle.trans hs.goes.now))
    · exact .inr (.inr ⟨r, (hs.of_ended hd').2⟩)

/-- From any moment on at which an agent is to stop it winds up. -/
theorem cancelled_winds_up {l₀ : Life} (hf : l₀.IsFresh) (hp : Run l₀ past l) (hc : l.isCancelled)
    (hr : Run l rest l') : WindsUp l rest l' where
  begun := run_begun hf hp hc hr
  attempts := run_attempts hf hp hc hr
  rebuilding := (run_rebuilding hf hp hc hr).1
  settled hset := (run_settled hf hp hc hr hset).2
  sent := run_sent hc hr
  paused _ _ hd := (run_paused hd hr).2
  waiting hd := (run_waiting hc hd hr).2
  returned := run_returned hf hp hc hr
  cancelled _ := ((hp.trans hr).owned hf).cancelled_of_ended
  ends := exists_run_over ((hp.trans hr).sound hf) (hr.goes.isCancelled hc)

/-- Leadership is lost while the agent pauses, and yet it opens a watch and sends a batch before it
notices. -/
theorem deposed_agent_winds_up :
    let l₀ := ofSettings {}
    l₀.IsFresh ∧ ∃ past l rest l', Run l₀ past l ∧ l.isCancelled ∧ Run l rest l' ∧
      (∃ e ∈ rest, e.Reopens) ∧ rest.countP Event.isDelivery = 1 ∧
      .returned (.error .leadershipLost) ∈ rest ∧ WindsUp l rest l' := by
  intro l₀
  have hfresh : l₀.IsFresh := isFresh_ofSettings {}
  let stage : Stage := { gateway := "gateway", name := "stage" }
  have hfails : Agent.Opens l₀.agent [⟨.watch, .error (.backend "down"), 0⟩] _ _ := .unwatched
  have hopens : Agent.Opens l₀.agent [⟨.watch, .ok 0, 2000⟩, ⟨.stages, .ok [stage], 2000⟩,
    ⟨.prune ["gateway/stage"], .ok (), 2000⟩] _ _ := .opened
  have hstart := Run.tail (.refl l₀) (.start rfl)
  have hasked := hstart.trans (run_calls rfl (job_opening_reaches hfails)
    (List.forall_mem_singleton.2 ⟨rfl, trivial⟩))
  have hdeposed := (hasked.tail (.fail rfl)).tail (.cancel 1)
  let l : Life :=
    { l₀ with
      tokens := ⟨[⟨some 0, true⟩, ⟨none, true⟩, ⟨none, false⟩]⟩
      doing := .pausing 2 2000
      issued := [2] }
  replace hdeposed : Run l₀ _ l := hdeposed
  have hagain := ((Run.tail (.refl l) (.pass (show 0 ≤ 2000 by decide))).tail
    (.wake rfl (Nat.le_refl 2000))).trans (run_calls rfl (job_opening_reaches hopens) (by
      simp only [List.forall_mem_cons]
      exact ⟨⟨rfl, trivial⟩, ⟨rfl, trivial⟩, ⟨rfl, trivial⟩, List.forall_mem_nil _⟩))
  have hsent := (hagain.tail (.yield rfl)).tail
    (.send rfl (show CommitChannel.send { capacity := 1 } [stage.withoutReport] = .sent _ from rfl))
  have hreturned := hsent.tail (.stepDown rfl rfl rfl)
  refine ⟨hfresh, _, l, _, _, hdeposed, rfl, hreturned, ?_, ?_, ?_, ?_⟩
  · exact ⟨.act (.called ⟨.watch, .ok 0, 2000⟩), by simp, trivial⟩
  · rfl
  · exact List.mem_append_right _ (List.mem_singleton.2 rfl)
  · exact cancelled_winds_up hfresh hdeposed rfl hreturned

end Life

/-! ## Loss of leadership -/

namespace Pipeline

/-- The loss of leadership is not noticed while a watch is opened anew: the agent opens another one,
withdraws stages and sends a batch. -/
theorem deposed_agent_reopens_watch :
    let stage : Stage := { gateway := "gateway", name := "stage" }
    let store := ({} : Store).put { kind := .stage, stage, name := "stage" }
    let p : Pipeline :=
      { services := { registry := { store }, faults := { watches := 1 } }
        settings := {}, segmentSize := 1, channel := { capacity := 1 }
        agent := { directory := .empty true, retries := { capacity := 1, delay := 1 } } }
    let deposed := { p.start.setTime 2000 with leaderLost := true }
    deposed.phase = .reopening 2 2000 ∧ deposed.services.watchCalls = 1 ∧
      ∃ q, deposed.agentStep? = some q ∧ q.leaderLost ∧ q.phase = .watching 0 ∧
        q.services.watchCalls = 2 ∧ q.channel.batches = [[stage.withoutReport]] ∧
        q.services.deeds.any fun (_, d) ↦ d matches .prune _ := by
  intro stage store p deposed
  have heval : deposed.phase = .reopening 2 2000 ∧ deposed.services.watchCalls = 1 ∧
      ∃ q ∈ deposed.agentStep?, q.leaderLost ∧ q.phase = .watching 0 ∧
        q.services.watchCalls = 2 ∧ q.channel.batches = [[stage.withoutReport]] ∧
        q.services.deeds.any fun (_, d) ↦ d matches .prune _ := by
    decide +kernel
  exact heval

end Pipeline

end StageRelay
