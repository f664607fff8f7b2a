import StageRelay.Proofs.Life.Basic

/-!
# Pieces of work

What the agent does is done as a part of some piece of work. The calls of a piece are those that its
task takes, in the order of their times; then a batch is sent, unless the work failed. A notice
whose batch was refused is queued again as a part of the same piece.
-/

namespace StageRelay.Life

variable {l l' : Life} {trace events : List Event} {w : Piece} {f : Finished} {most : UInt32}
  {task : Task} {a a' a'' : AgentState} {acts : List Act} {job : Rest} {now now' : Nat}

/-! ## Times -/

/-- When something was done. -/
def Act.time : Act → Nat
  | .called x => x.time
  | .sent _ _ time => time

/-- Whether the clock told the time if it was asked. -/
def Act.Tells : Act → Prop
  | .called x => x.call.Tells x.time x.answer
  | .sent _ _ _ => True

/-- When a piece of work was begun, and when each part of it was done. -/
def Piece.times (w : Piece) : List Nat :=
  w.began :: w.acts.map Act.time

namespace Piece

/-- The parts of a piece of work were done one after another, up to a time. -/
structure Timely (w : Piece) (now : Nat) : Prop where
  sorted : w.times.Pairwise (· ≤ ·)
  past : ∀ t ∈ w.times, t ≤ now
  tells : ∀ x ∈ w.acts, x.Tells

theorem times_add (w : Piece) (acts : List Act) :
    (w.add acts).times = w.times ++ acts.map Act.time := by
  simp [times, add]

namespace Timely

theorem begin (task : Task) (now : Nat) : Timely { task, began := now } now where
  sorted := List.pairwise_singleton _ _
  past _ ht := (List.mem_singleton.1 ht).le
  tells := List.forall_mem_nil _

theorem mono (h : w.Timely now) (hle : now ≤ now') : w.Timely now' :=
  ⟨h.sorted, fun t ht ↦ (h.past t ht).trans hle, h.tells⟩

theorem add (h : w.Timely now) (htime : ∀ x ∈ acts, x.time = now) (htells : ∀ x ∈ acts, x.Tells) :
    (w.add acts).Timely now := by
  have hnow : ∀ t ∈ acts.map Act.time, t = now := List.forall_mem_map.2 htime
  refine ⟨?_, ?_, ?_⟩
  · rw [times_add, List.pairwise_append]
    refine ⟨h.sorted, ?_, fun t ht t' ht' ↦ ?_⟩
    · refine List.Pairwise.imp_mem.2 (List.pairwise_of_forall fun t t' ht ht' ↦ ?_)
      exact (hnow t ht).trans_le (hnow t' ht').ge
    · exact (h.past t ht).trans_eq (hnow t' ht').symm
  · rw [times_add]
    intro t ht
    rcases List.mem_append.1 ht with ht | ht
    · exact h.past t ht
    · exact (hnow t ht).le
  · intro x hx
    exact (List.mem_append.1 hx).elim (h.tells x) (htells x)

theorem deliver (h : w.Timely now) (batch : List Stage) (accepted : Bool) :
    (w.add (delivery batch accepted now)).Timely now := by
  unfold delivery
  split
  · exact h.add (List.forall_mem_nil _) (List.forall_mem_nil _)
  · exact h.add (List.forall_mem_singleton.2 rfl) (List.forall_mem_singleton.2 trivial)

end Timely

end Piece

/-! ## Work under way -/

/-- What was done of a task, what the agent keeps meanwhile, and what is left to do. -/
inductive Underway (most : UInt32) (task : Task) (a : AgentState) :
    List Act → AgentState → Rest → Prop
  | first {calls : List Answered} {job : Rest} (h : (task.job most a).Reaches calls job) :
    Underway most task a (calls.map .called) a job
  /-- The batch of a notice was refused. -/
  | again {number time : Nat} {n : Notice} {calls calls' : List Answered} {batch : List Stage}
    {a' : AgentState} {job : Rest} (htask : task = .handling number n) (hb : batch ≠ [])
    (h : (task.job most a).Reaches calls (.done (.ok (.batch batch), a')))
    (h' : (later n a').Reaches calls' job) :
    Underway most task a (calls.map .called ++ .sent batch false time :: calls'.map .called) a' job

theorem Underway.call {β : Type} {c : Call β} {next : β → Rest}
    (h : Underway most task a acts a' (.call c next)) (b : β) (time : Nat) :
    Underway most task a (acts ++ [.called ⟨c, b, time⟩]) a' (next b) := by
  cases h with
  | first h => simpa using Underway.first (h.concat b time)
  | again htask hb h h' => simpa using Underway.again htask hb h (h'.concat b time)

/-- The calls of an attempt to open a watch. -/
theorem job_opening_reaches {attempt token : Nat} {calls : List Answered}
    {r : Except AgentError (List Stage)} (h : Agent.Opens a calls r a') :
    (Task.job most a (.opening attempt token)).Reaches calls (.done (r.map .batch, a')) := by
  rw [← List.append_nil calls]
  exact h.reaches.bind (.refl _)

theorem later_reaches {n : Notice} {calls : List Answered}
    {r : Except AgentError Agent.Handled} (h : (later n a).Reaches calls (.done (r, a'))) :
    ∃ x, r = .ok x ∧ Agent.Reschedules n a calls x a' := by
  obtain ⟨calls₁, calls₂, x, rfl, h₁, h₂⟩ := h.of_bind
  cases h₂
  rw [List.append_nil]
  exact ⟨_, rfl, Agent.retryLater_reaches h₁⟩

/-- The batch that is left after a notice was queued again is empty. -/
theorem batch_eq_nil {batch : List Stage} {n : Notice} {calls : List Answered}
    (h : (later n a).Reaches calls (.done (.ok (.batch batch), a'))) : batch = [] := by
  obtain ⟨x, hx, h⟩ := later_reaches h
  cases hx
  cases h <;> rfl

/-- Nothing but the handling of a notice can crash. -/
theorem Underway.of_crashed (h : Underway most task a acts a' (.done (.ok .crashed, a''))) :
    ∃ number n, task = .handling number n := by
  cases h with
  | again htask _ _ _ => exact ⟨_, _, htask⟩
  | first h =>
    cases task with
    | handling number n => exact ⟨number, n, rfl⟩
    | opening attempt token =>
      obtain ⟨_, _, ⟨r, a⟩, _, _, h⟩ := Job.Reaches.of_bind h
      cases r <;> cases h
    | ticking =>
      obtain ⟨_, _, ⟨batch, a⟩, _, _, h⟩ := Job.Reaches.of_bind h
      cases h

/-- Nothing but an attempt to open a watch can fail. -/
theorem Underway.of_failed {e : AgentError}
    (h : Underway most task a acts a' (.done (.error e, a''))) :
    ∃ attempt token, task = .opening attempt token := by
  cases h with
  | again _ _ _ h =>
    obtain ⟨x, hx, _⟩ := later_reaches h
    cases hx
  | first h =>
    cases task with
    | opening attempt token => exact ⟨attempt, token, rfl⟩
    | handling number n =>
      obtain ⟨_, _, x, _, _, h⟩ := Job.Reaches.of_bind h
      cases h
    | ticking =>
      obtain ⟨_, _, x, _, _, h⟩ := Job.Reaches.of_bind h
      cases h

/-- What holds of the work under way. -/
def Sound (l : Life) : Prop :=
  match l.doing with
  | .working w job => w.Timely l.now ∧
    ∃ a, Underway l.settings.maxEventRetries w.task a w.acts l.agent job
  | .sending w batch => w.Timely l.now ∧ ∃ a a',
    Underway l.settings.maxEventRetries w.task a w.acts a' (.done (.ok (.batch batch), l.agent))
  | _ => True

theorem sound_working (hd : l.doing = .working w job) : l.Sound ↔ w.Timely l.now ∧
    ∃ a, Underway l.settings.maxEventRetries w.task a w.acts l.agent job := by
  rw [Sound, hd]

theorem sound_sending {batch : List Stage} (hd : l.doing = .sending w batch) :
    l.Sound ↔ w.Timely l.now ∧ ∃ a a', Underway l.settings.maxEventRetries w.task a w.acts a'
      (.done (.ok (.batch batch), l.agent)) := by
  rw [Sound, hd]

/-- How a piece of work went that is over. -/
inductive Went (most : UInt32) : Finished → Prop
  | failed {w : Piece} {a a' a'' : AgentState} {e : AgentError} {time : Nat}
    (h : Underway most w.task a w.acts a' (.done (.error e, a''))) : Went most ⟨w, time, false⟩
  | sent {w : Piece} {a a' a'' : AgentState} {batch : List Stage} {time : Nat}
    (h : Underway most w.task a w.acts a' (.done (.ok (.batch batch), a''))) :
    Went most ⟨w.add (delivery batch true time), time, true⟩
  | refused {w : Piece} {a a' a'' : AgentState} {batch : List Stage} {time : Nat}
    (hb : batch ≠ [])
    (h : Underway most w.task a w.acts a' (.done (.ok (.batch batch), a''))) :
    Went most ⟨w.add (delivery batch false time), time, false⟩

/-! ## Steps -/

theorem sound_take (l : Life) (task : Task) : (l.take task).2.Sound :=
  ⟨.begin task l.now, l.agent, .first (.refl _)⟩

/-- After a piece of work the agent may turn to the same piece again only. -/
theorem Closes.sound {ok : Bool} (h : Closes l w ok events l')
    (hagain : ∀ number n, w.task = .handling number n → ok = false →
      w.Timely l.now ∧ ∃ a, Underway l.settings.maxEventRetries w.task a w.acts l.agent
        (later n l.agent)) : l'.Sound := by
  cases h with
  | @again number n hw => exact hagain number n hw rfl
  | watched _ | stalled _ _ | paused _ _ | exhausted _ _ | back _ _ => trivial

theorem closed_ne_nil {channel : CommitChannel} {batch : List Stage}
    (h : channel.send batch = .closed) : batch ≠ [] := by
  rintro rfl
  cases h

theorem delivery_of_ne_nil {batch : List Stage} (h : batch ≠ []) (accepted : Bool) (time : Nat) :
    delivery batch accepted time = [.sent batch accepted time] :=
  if_neg fun hnil ↦ h (List.isEmpty_iff.1 hnil)

theorem Sound.step (h : l.Sound) (hs : Step l events l') : l'.Sound := by
  cases hs with
  | pass hle =>
    unfold Sound at h ⊢
    dsimp only
    split at h
    · exact ⟨h.1.mono hle, h.2⟩
    · exact ⟨h.1.mono hle, h.2⟩
    · trivial
  | cancel token => exact h
  | subscribe parent => exact h
  | start hd => exact sound_take _ _
  | @call w β c next hd b hb =>
    obtain ⟨htimely, a, h⟩ := (sound_working hd).1 h
    refine ⟨htimely.add ?_ ?_, a, h.call b l.now⟩
    · exact List.forall_mem_singleton.2 rfl
    · exact List.forall_mem_singleton.2 hb
  | yield hd =>
    obtain ⟨htimely, a, h⟩ := (sound_working hd).1 h
    exact ⟨htimely, a, l.agent, h⟩
  | crash hd => trivial
  | @fail w e agent hd =>
    obtain ⟨-, a, h⟩ := (sound_working hd).1 h
    obtain ⟨attempt, token, htask⟩ := h.of_failed
    exact (abandon_closes _ w).sound fun number n hw _ ↦ by simp [htask] at hw
  | send hd hc => exact (finish_closes _ _).sound fun _ _ _ hok ↦ nomatch hok
  | @refuse w batch channel hd hc =>
    obtain ⟨htimely, a, a', h⟩ := (sound_sending hd).1 h
    refine (abandon_closes _ _).sound fun number n hw _ ↦ ⟨htimely.deliver _ _, a, ?_⟩
    have hb := closed_ne_nil hc
    have hw : w.task = .handling number n := hw
    show Underway _ w.task a (w.acts ++ delivery batch false l.now) _ _
    rw [delivery_of_ne_nil hb]
    generalize w.acts = acts at h ⊢
    -- work that is done again leaves no batch, so that this was the first time
    cases h with
    | first h => exact .again hw hb h (.refl _)
    | again _ _ _ h => exact absurd (batch_eq_nil h) hb
  | wake hd ht => exact sound_take _ _
  | quit hd hs => trivial
  | stop hd hs => trivial
  | stepDown hd hs hl => trivial
  | lose hd hc => exact sound_take _ _
  | hear hd hc n => exact sound_take _ _
  | retry hd hc he hn ht => exact sound_take _ _
  | tick hd hc => exact sound_take _ _

theorem Closes.finished_eq {ok : Bool} (h : Closes l w ok events l') (hf : .finished f ∈ events) :
    f = ⟨w, l.now, ok⟩ := by
  cases h <;> simp_all

/-- Each piece of work that ends in a step was timely, and went in one of three ways. -/
theorem went_step (h : l.Sound) (hs : Step l events l') (hf : .finished f ∈ events) :
    f.piece.Timely f.ended ∧ Went l.settings.maxEventRetries f := by
  cases hs with
  | @fail w e agent hd =>
    obtain ⟨htimely, a, h⟩ := (sound_working hd).1 h
    obtain rfl := (abandon_closes _ _).finished_eq hf
    exact ⟨htimely, .failed h⟩
  | @send w batch channel channel' hd hc =>
    obtain ⟨htimely, a, a', h⟩ := (sound_sending hd).1 h
    obtain rfl : f = _ := (finish_closes _ _).finished_eq (by simpa using hf)
    exact ⟨htimely.deliver _ _, .sent h⟩
  | @refuse w batch channel hd hc =>
    obtain ⟨htimely, a, a', h⟩ := (sound_sending hd).1 h
    obtain rfl : f = _ := (abandon_closes _ _).finished_eq (by simpa using hf)
    exact ⟨htimely.deliver _ _, .refused (closed_ne_nil hc) h⟩
  | _ => simp [rebuild, openWatch, take, leave, hear, retry] at hf

/-! ## Runs -/

theorem IsFresh.sound (h : l.IsFresh) : l.Sound := by
  rw [Sound, h.doing]
  trivial

theorem Sound.run (h : l.Sound) (hr : Run l trace l') : l'.Sound := by
  induction hr with
  | refl => exact h
  | tail hr hs ih => exact ih.step hs

theorem Run.sound (hl : l.IsFresh) (hr : Run l trace l') : l'.Sound :=
  hl.sound.run hr

theorem Run.went (hl : l.IsFresh) (hr : Run l trace l') (hf : .finished f ∈ trace) :
    f.piece.Timely f.ended ∧ Went l.settings.maxEventRetries f := by
  induction hr with
  | refl => cases hf
  | tail hr hs ih =>
    rcases List.mem_append.1 hf with hf | hf
    · exact ih hf
    · rw [← hr.goes.settings]
      exact went_step (hr.sound hl) hs hf

/-! ## A first watch -/

/-- The agent waits for notices, as there is a watch. -/
def awake (s : AgentSettings) : Life :=
  { ofSettings s with
    tokens := ⟨[⟨some 0, false⟩, ⟨none, false⟩, ⟨none, false⟩]⟩
    doing := .watching
    watch? := some 2
    ticks := true
    issued := [2] }

/-- The attempt to open a watch at which there were no stages. -/
def awakening : Piece where
  task := .opening 1 2
  began := 0
  acts := [.called ⟨.watch, .ok 0, 0⟩, .called ⟨.stages, .ok [], 0⟩,
    .called ⟨.prune [], .ok (), 0⟩]

theorem run_awake {s : AgentSettings} (hticks : s.tickInterval ≠ 0) :
    Run (ofSettings s) (.rebuilding :: .begun { awakening with acts := [] } ::
      (awakening.acts.map .act ++ [.finished ⟨awakening, 0, true⟩])) (awake s) := by
  have hopens : Agent.Opens (ofSettings s).agent
    [⟨.watch, .ok 0, 0⟩, ⟨.stages, .ok [], 0⟩, ⟨.prune [], .ok (), 0⟩] _ _ := .opened
  have hopened := run_finish (l := (ofSettings s).rebuild.2) rfl (job_opening_reaches hopens) (by
    simp only [List.forall_mem_cons]
    exact ⟨⟨rfl, trivial⟩, ⟨rfl, trivial⟩, ⟨rfl, trivial⟩, List.forall_mem_nil _⟩)
    (show CommitChannel.send { capacity := 1 } [] = .sent _ from rfl)
  dsimp only at hopened
  rw [finish_opening rfl hticks] at hopened
  exact (Run.tail (.refl _) (.start rfl)).trans hopened

end StageRelay.Life
