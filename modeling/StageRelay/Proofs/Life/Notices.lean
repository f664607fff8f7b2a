import StageRelay.Proofs.Life.Pieces

/-!
# How notices are handled

A notice that concerns certificates is attempted, unless it was tried too often. An attempt that
failed, or whose batch was refused, counts one outcome: the notice is queued again, or dropped as
there is no room.
-/

namespace StageRelay

/-- Whether the tries of a notice can be counted, and its delay be kept track of. -/
structure AgentSettings.CanRetry (s : AgentSettings) : Prop where
  counts : s.maxEventRetries.toNat + 1 < UInt32.size
  delays : s.eventRetryDelay.toNat < RetryQueue.delayLimit

namespace Life

variable {l l' : Life} {trace events : List Event} {w : Piece} {f : Finished} {most : UInt32}
  {n : Notice} {number : Nat} {a a' a'' : AgentState} {acts : List Act} {calls : List Answered}
  {stages batch : List Stage}

/-! ## Acts -/

/-- The outcome that is counted. -/
def Act.outcome? : Act → Option RetryOutcome
  | .called ⟨.note (.retry outcome), _, _⟩ => some outcome
  | _ => none

/-- The outcomes that were counted. -/
def outcomes (acts : List Act) : List RetryOutcome :=
  acts.filterMap Act.outcome?

/-- Whether a measure is taken. -/
def Act.IsNote : Act → Prop
  | .called ⟨.note _, _, _⟩ => True
  | _ => False

theorem outcomes_append (acts acts' : List Act) :
    outcomes (acts ++ acts') = outcomes acts ++ outcomes acts' :=
  List.filterMap_append

theorem outcomes_delivery (batch : List Stage) (accepted : Bool) (time : Nat) :
    outcomes (delivery batch accepted time) = [] := by
  unfold delivery
  split <;> rfl

theorem outcomes_handles (h : ∀ x ∈ calls, x.call.Handles stages) :
    outcomes (calls.map .called) = [] := by
  refine List.filterMap_eq_nil_iff.2 (List.forall_mem_map.2 fun x hx ↦ ?_)
  have hx := h x hx
  obtain ⟨call, answer, time⟩ := x
  cases call <;> first | rfl | cases hx

/-! ## Attempts -/

/-- The handling of a notice began like this, and its attempt led to a result. -/
def Begins (most : UInt32) (n : Notice) (r : Except AgentError (List Stage)) (acts : List Act) :
    Prop :=
  ∃ a calls a' time, ((Agent.handleCertificates most n).run.run a).Reaches calls (.done (r, a')) ∧
    acts = .called ⟨.note (.received n.kind), (), time⟩ :: calls.map .called

/-- What is done to queue a notice again, and what it makes of the queue. -/
inductive Requeues (n : Notice) (q : RetryQueue) : List Act → RetryQueue → Prop
  | scheduled {now time : Nat} {q' : RetryQueue} (hn : n.retries.toNat + 1 ≠ UInt32.size)
    (hq : q.push now { n with retries := n.retries + 1 } = .accepted q') :
    Requeues n q [.called ⟨.clock, now, now⟩, .called ⟨.note (.retry .scheduled), (), time⟩] q'
  | dropped {now time : Nat} :
    Requeues n q [.called ⟨.clock, now, now⟩, .called ⟨.note (.retry .dropped), (), time⟩] q

/-- How the handling of a notice goes: what is done, the batch that is left to send, and what
it makes of the queue. -/
inductive Handles (most : UInt32) (n : Notice) (q : RetryQueue) :
    List Act → List Stage → RetryQueue → Prop
  /-- It concerns something else. -/
  | passed {acts : List Act} (hn : n.concernsCertificates = false) (ho : outcomes acts = []) :
    Handles most n q acts [] q
  | exhausted {acts : List Act} (hn : n.concernsCertificates = true) (hmost : most < n.retries)
    (ho : outcomes acts = [.exhausted]) : Handles most n q acts [] q
  | succeeded {acts : List Act} {batch : List Stage} (hn : n.concernsCertificates = true)
    (hmost : n.retries ≤ most) (h : Begins most n (.ok batch) acts) : Handles most n q acts batch q
  | failed {acts acts' : List Act} {e : AgentError} {q' : RetryQueue}
    (hn : n.concernsCertificates = true) (hmost : n.retries ≤ most)
    (h : Begins most n (.error e) acts) (h' : Requeues n q acts' q') :
    Handles most n q (acts ++ acts') [] q'
  | refused {acts acts' : List Act} {batch : List Stage} {time : Nat} {q' : RetryQueue}
    (hn : n.concernsCertificates = true) (hmost : n.retries ≤ most)
    (h : Begins most n (.ok batch) acts) (hb : batch ≠ []) (h' : Requeues n q acts' q') :
    Handles most n q (acts ++ .sent batch false time :: acts') [] q'

theorem Begins.outcomes_eq {r : Except AgentError (List Stage)} (h : Begins most n r acts)
    (hmost : n.retries ≤ most) : outcomes acts = [] := by
  obtain ⟨a, calls, a', time, h, rfl⟩ := h
  exact outcomes_handles (Agent.handleCertificates_reaches hmost h).1

theorem requeues_of_reschedules (h : Agent.Reschedules n a calls (.batch batch) a')
    (htells : ∀ x ∈ calls, x.call.Tells x.time x.answer) :
    batch = [] ∧ Requeues n a.retries (calls.map .called) a'.retries := by
  cases h with
  | @scheduled q now time time' hn hq =>
    obtain rfl : now = time := htells ⟨.clock, now, time⟩ (List.mem_cons_self ..)
    exact ⟨rfl, .scheduled hn hq⟩
  | @dropped now time time' hn hq =>
    obtain rfl : now = time := htells ⟨.clock, now, time⟩ (List.mem_cons_self ..)
    exact ⟨rfl, .dropped⟩

theorem handles_of_conducts (h : Agent.Conducts most n a calls (.batch batch) a')
    (htells : ∀ x ∈ calls, x.call.Tells x.time x.answer) :
    Handles most n a.retries (calls.map .called) batch a'.retries := by
  generalize hhandled : Agent.Handled.batch batch = handled at h
  cases h with
  | @passed time calls hn hcalls =>
    cases hhandled
    show Handles _ _ _ (.called ⟨.note _, (), time⟩ :: calls.map .called) _ _
    exact .passed hn (outcomes_handles hcalls)
  | exhausted hn hmost =>
    cases hhandled
    exact .exhausted hn hmost rfl
  | @succeeded time calls batch a' hn hmost h =>
    cases hhandled
    rw [(Agent.handleCertificates_reaches hmost h).2]
    exact .succeeded hn hmost ⟨a, calls, a', time, h, rfl⟩
  | @failed time calls calls' e handled a' a'' hn hmost h h' =>
    subst hhandled
    obtain ⟨rfl, hrequeues⟩ := requeues_of_reschedules h'
      fun x hx ↦ htells x (List.mem_append_right _ hx)
    rw [(Agent.handleCertificates_reaches hmost h).2] at hrequeues
    rw [List.map_append]
    exact .failed hn hmost ⟨a, calls, a', time, h, rfl⟩ hrequeues

/-- A batch is left to send only if the attempt succeeded. -/
theorem Handles.begins {q q' : RetryQueue} (h : Handles most n q acts batch q') (hb : batch ≠ []) :
    q' = q ∧ n.concernsCertificates = true ∧ n.retries ≤ most ∧ Begins most n (.ok batch) acts := by
  cases h with
  | succeeded hn hmost h => exact ⟨rfl, hn, hmost, h⟩
  | _ => exact absurd rfl hb

theorem job_handling_reaches {handled : Agent.Handled}
    (h : (Task.job most a (.handling number n)).Reaches calls (.done (.ok handled, a'))) :
    Agent.Conducts most n a calls handled a' := by
  obtain ⟨calls₁, calls₂, x, rfl, h₁, h₂⟩ := h.of_bind
  cases h₂
  rw [List.append_nil]
  exact Agent.handle_reaches h₁

/-- How a notice was handled when what is left is a batch to send. -/
theorem Underway.handles
    (h : Underway most (.handling number n) a acts a' (.done (.ok (.batch batch), a'')))
    (htells : ∀ x ∈ acts, x.Tells) : Handles most n a'.retries acts batch a''.retries := by
  cases h with
  | first h => exact handles_of_conducts (job_handling_reaches h) (List.forall_mem_map.1 htells)
  | @again number n' time calls calls' batch' a' job htask hb h h' =>
    cases htask
    obtain ⟨htells, htells'⟩ := List.forall_mem_append.1 htells
    have hfirst := handles_of_conducts (job_handling_reaches h) (List.forall_mem_map.1 htells)
    obtain ⟨-, hn, hmost, hbegins⟩ := hfirst.begins hb
    obtain ⟨x, hx, hreschedules⟩ := later_reaches h'
    cases hx
    obtain ⟨rfl, hrequeues⟩ := requeues_of_reschedules hreschedules
      (List.forall_mem_map.1 (List.forall_mem_cons.1 htells').2)
    exact .refused hn hmost hbegins hb hrequeues

theorem crashes_of_reschedules (h : Agent.Reschedules n a calls .crashed a')
    (hmost : n.retries ≤ most) :
    most.toNat + 1 = UInt32.size ∨ RetryQueue.delayLimit ≤ a.retries.delay := by
  generalize hhandled : Agent.Handled.crashed = handled at h
  cases h with
  | uncounted hn =>
    have hle := UInt32.le_iff_toNat_le.1 hmost
    have hlt := most.toNat_lt_size
    exact .inl (by omega)
  | beyond hn hq =>
    refine .inr ?_
    unfold RetryQueue.push at hq
    split at hq
    · cases hq
    · split at hq
      · assumption
      · cases hq
  | _ => cases hhandled

/-- The handling of a notice crashes only if its tries cannot be counted, or if the delay is too
long. -/
theorem Underway.crashes {task : Task}
    (h : Underway most task a acts a' (.done (.ok .crashed, a''))) (htells : ∀ x ∈ acts, x.Tells) :
    most.toNat + 1 = UInt32.size ∨ RetryQueue.delayLimit ≤ a'.retries.delay := by
  obtain ⟨number, n, rfl⟩ := h.of_crashed
  cases h with
  | first h =>
    generalize hhandled : Agent.Handled.crashed = handled at h
    cases job_handling_reaches h with
    | failed _ hmost hfails hreschedules =>
      subst hhandled
      rw [← (Agent.handleCertificates_reaches hmost hfails).2]
      exact crashes_of_reschedules hreschedules hmost
    | _ => cases hhandled
  | again htask hb h h' =>
    cases htask
    have hfirst := handles_of_conducts (job_handling_reaches h)
      (List.forall_mem_map.1 (List.forall_mem_append.1 htells).1)
    obtain ⟨-, -, hmost, -⟩ := hfirst.begins hb
    obtain ⟨x, hx, hreschedules⟩ := later_reaches h'
    cases hx
    exact crashes_of_reschedules hreschedules hmost

/-! ## What a step does about notices -/

/-- What is done as for notices. -/
inductive Desk : Type 1 where
  | free
  /-- A notice is handled. -/
  | busy (w : Piece)
  /-- The batch that is left of it waits for the channel. -/
  | settled (w : Piece)

/-- What is done as for notices. -/
def Doing.desk : Doing → Desk
  | .working w _ => if w.task.number?.isSome then .busy w else .free
  | .sending w _ => if w.task.number?.isSome then .settled w else .free
  | _ => .free

/-- What is done as for notices. -/
def desk (l : Life) : Desk := l.doing.desk

/-- The piece of work about a notice that an event ends. -/
def Event.handled? : Event → Option Piece
  | .finished f => if f.piece.task.number?.isSome then some f.piece else none
  | _ => none

/-- The piece of work about a notice that an event begins. -/
def Event.taken? : Event → Option Piece
  | .begun w => if w.task.number?.isSome then some w else none
  | _ => none

/-- An event is not about notices. -/
structure Event.Ignores (e : Event) : Prop where
  handled : e.handled? = none
  taken : e.taken? = none

/-- What a step does about notices. -/
inductive Minds (l : Life) : List Event → Life → Prop
  /-- It is not about notices. -/
  | aside {events : List Event} {l' : Life} (hdesk : l'.desk = l.desk)
    (hretries : l'.agent.retries = l.agent.retries) (hnumbers : l'.numbers = l.numbers)
    (hreceived : l'.received = l.received) (hevents : ∀ e ∈ events, e.Ignores) :
    Minds l events l'
  | hears {n : Notice} {doing : Doing} (hdesk : l.desk = .free)
    (hd : doing.desk = .busy { task := .handling l.received n, began := l.now }) :
    Minds l [.begun { task := .handling l.received n, began := l.now }]
      { l with received := l.received + 1, doing }
  | retries {i number : Nat} {e : Delayed} {doing : Doing} (hdesk : l.desk = .free)
    (he : l.agent.retries.entries[i]? = some e) (hn : l.numbers[i]? = some number)
    (ht : e.due ≤ l.now)
    (hd : doing.desk = .busy { task := .handling number e.notice, began := l.now }) :
    Minds l [.begun { task := .handling number e.notice, began := l.now }]
      { l with
        numbers := l.numbers.eraseIdx i
        agent := { l.agent with
          retries := { l.agent.retries with entries := l.agent.retries.entries.eraseIdx i } }
        doing }
  | calls {w : Piece} {x : Act} {doing : Doing} (hdesk : l.desk = .busy w)
    (hd : doing.desk = .busy (w.add [x])) : Minds l [.act x] { l with doing }
  | settles {w : Piece} {number : Nat} {n : Notice} {batch : List Stage} {agent : AgentState}
    {doing : Doing} (hdesk : l.desk = .busy w) (hw : w.task = .handling number n)
    (hh : Handles l.settings.maxEventRetries n l.agent.retries w.acts batch agent.retries)
    (htimely : w.Timely l.now) (hd : doing.desk = .settled w) :
    Minds l [] ((l.keep w.task agent).enter doing)
  | concludes {w : Piece} {number : Nat} {n : Notice} {batch : List Stage} {q q' : RetryQueue}
    (hdesk : l.desk = .settled w) (hw : w.task = .handling number n)
    (hh : Handles l.settings.maxEventRetries n q w.acts batch q') :
    Minds l ((delivery batch true l.now).map .act ++
      [.finished ⟨w.add (delivery batch true l.now), l.now, true⟩]) { l with doing := .watching }
  | again {w : Piece} {number : Nat} {n : Notice} {batch : List Stage} {q q' : RetryQueue}
    {doing : Doing} (hdesk : l.desk = .settled w) (hw : w.task = .handling number n)
    (hb : batch ≠ []) (hh : Handles l.settings.maxEventRetries n q w.acts batch q')
    (hd : doing.desk = .busy (w.add [.sent batch false l.now])) :
    Minds l [.act (.sent batch false l.now)] { l with doing }

theorem Task.of_number? {task : Task} (h : task.number? = some number) :
    ∃ n, task = .handling number n := by
  cases task with
  | handling number' n =>
    cases h
    exact ⟨n, rfl⟩
  | _ => cases h

theorem ignores_act (x : Act) : (Event.act x).Ignores :=
  ⟨rfl, rfl⟩

theorem ignores_acts (acts : List Act) : ∀ e ∈ acts.map Event.act, e.Ignores :=
  List.forall_mem_map.2 fun x _ ↦ ignores_act x

theorem ignores_begun {w : Piece} (hw : w.task.number? = none) : (Event.begun w).Ignores :=
  ⟨rfl, by simp [Event.taken?, hw]⟩

theorem ignores_finished {f : Finished} (hf : f.piece.task.number? = none) :
    (Event.finished f).Ignores :=
  ⟨by simp [Event.handled?, hf], rfl⟩

theorem ignores_returned (r : Except AgentError Unit) : (Event.returned r).Ignores :=
  ⟨rfl, rfl⟩

theorem ignores_leave (r : Except AgentError Unit) : ∀ e ∈ (l.leave r).1, e.Ignores :=
  List.forall_mem_singleton.2 (ignores_returned r)

theorem ignores_openWatch (attempt : Nat) : ∀ e ∈ (l.openWatch attempt).1, e.Ignores :=
  List.forall_mem_singleton.2 (ignores_begun rfl)

theorem ignores_rebuild : ∀ e ∈ l.rebuild.1, e.Ignores :=
  List.forall_mem_cons.2 ⟨⟨rfl, rfl⟩, ignores_openWatch 1⟩

/-- An attempt to open a watch, or a tick, is not about notices. -/
theorem Closes.minds {w : Piece} {ok : Bool} {agent : AgentState} {numbers : List Nat}
    (h : Closes { l with agent, numbers } w ok events l') (acts : List Act)
    (hdesk : l.desk = .free) (hw : w.task.number? = none)
    (hretries : agent.retries = l.agent.retries) (hnumbers : numbers = l.numbers) :
    Minds l (acts.map .act ++ events) l' := by
  cases h with
  | again htask =>
    rw [htask] at hw
    cases hw
  | _ =>
    refine .aside hdesk.symm hretries hnumbers rfl
      (List.forall_mem_append.2 ⟨ignores_acts acts, ?_⟩)
    simp [ignores_finished, ignores_returned, hw]

/-- Other work leaves the queue as it is. -/
theorem Underway.retries {task : Task} {r : Except AgentError Agent.Handled}
    (h : Underway most task a acts a' (.done (r, a''))) (htask : task.number? = none) :
    a''.retries = a'.retries := by
  cases h with
  | again hw _ _ _ =>
    rw [hw] at htask
    cases htask
  | first h =>
    cases task with
    | handling number n => cases htask
    | opening attempt token =>
      obtain ⟨_, _, ⟨result, kept⟩, _, h, h'⟩ := h.of_bind
      cases h'
      exact (Agent.opening_reaches h).retries
    | ticking =>
      obtain ⟨_, _, ⟨batch, kept⟩, _, h, h'⟩ := h.of_bind
      cases h'
      rw [Agent.tick_reaches h]

theorem keep_numbers {task : Task} (htask : task.number? = none) :
    (l.keep task a).numbers = l.numbers := by
  rw [keep, htask]
  exact List.append_nil _

/-- No work crashes if tries can be counted and the delay be kept track of. -/
theorem Sound.not_crashing {agent : AgentState} (h : l.Sound) (hcan : l.settings.CanRetry)
    (hdelay : l.agent.retries.delay = l.settings.eventRetryDelay.toNat) :
    l.doing ≠ .working w (.done (.ok .crashed, agent)) := by
  intro hd
  obtain ⟨htimely, a, h⟩ := (sound_working hd).1 h
  rcases h.crashes htimely.tells with hcount | hbeyond
  · exact absurd hcount hcan.counts.ne
  · rw [hdelay] at hbeyond
    exact absurd hbeyond hcan.delays.not_ge

/-- A batch is taken. -/
theorem Sound.minds_sent {batch : List Stage} (h : l.Sound) (hd : l.doing = .sending w batch) :
    Minds l
      ((delivery batch true l.now).map .act ++ (l.finish (w.add (delivery batch true l.now))).1)
      (l.finish (w.add (delivery batch true l.now))).2 := by
  obtain ⟨htimely, a, a', h⟩ := (sound_sending hd).1 h
  cases hnumber : w.task.number? with
  | none =>
    refine (finish_closes l (w.add (delivery batch true l.now))).minds _ ?_ hnumber rfl rfl
    simp [desk, hd, Doing.desk, hnumber]
  | some number =>
    obtain ⟨n, hw⟩ := Task.of_number? hnumber
    rw [hw] at h
    have hfinish : l.finish (w.add (delivery batch true l.now)) =
        ([.finished ⟨w.add (delivery batch true l.now), l.now, true⟩], l.enter .watching) := by
      unfold finish Piece.add
      rw [hw]
      rfl
    rw [hfinish]
    refine .concludes ?_ hw (h.handles htimely.tells)
    simp [desk, hd, Doing.desk, hnumber]

/-- A batch is refused. -/
theorem Sound.minds_refused {batch : List Stage} (h : l.Sound) (hd : l.doing = .sending w batch)
    (hb : batch ≠ []) :
    Minds l
      ((delivery batch false l.now).map .act ++ (l.abandon (w.add (delivery batch false l.now))).1)
      (l.abandon (w.add (delivery batch false l.now))).2 := by
  obtain ⟨htimely, a, a', h⟩ := (sound_sending hd).1 h
  cases hnumber : w.task.number? with
  | none =>
    refine (abandon_closes l (w.add (delivery batch false l.now))).minds _ ?_ hnumber rfl rfl
    simp [desk, hd, Doing.desk, hnumber]
  | some number =>
    obtain ⟨n, hw⟩ := Task.of_number? hnumber
    rw [hw] at h
    rw [delivery_of_ne_nil hb]
    have habandon : l.abandon (w.add [.sent batch false l.now]) =
        ([], l.enter (.working (w.add [.sent batch false l.now]) (later n l.agent))) := by
      unfold abandon Piece.add
      rw [hw]
    rw [habandon]
    refine .again ?_ hw hb (h.handles htimely.tells) ?_
    · simp [desk, hd, Doing.desk, hnumber]
    · simp [Doing.desk, Piece.add, hnumber]

theorem Step.minds (h : l.Sound) (hcan : l.settings.CanRetry)
    (hdelay : l.agent.retries.delay = l.settings.eventRetryDelay.toNat) (hs : Step l events l') :
    Minds l events l' := by
  cases hs with
  | pass _ | cancel _ | subscribe _ => exact .aside rfl rfl rfl rfl (List.forall_mem_nil _)
  | @call w β c next hd b hb =>
    cases hw : w.task.number? with
    | none =>
      refine .aside ?_ rfl rfl rfl (List.forall_mem_singleton.2 (ignores_act _))
      simp [desk, hd, enter, Doing.desk, Piece.add, hw]
    | some number =>
      refine .calls (w := w) ?_ ?_
      · simp [desk, hd, Doing.desk, hw]
      · simp [Doing.desk, Piece.add, hw]
  | @yield w batch agent hd =>
    obtain ⟨htimely, a, h⟩ := (sound_working hd).1 h
    cases hnumber : w.task.number? with
    | none =>
      refine .aside ?_ (h.retries hnumber) (keep_numbers hnumber) rfl (List.forall_mem_nil _)
      simp [desk, hd, enter, Doing.desk, hnumber]
    | some number =>
      obtain ⟨n, hw⟩ := Task.of_number? hnumber
      rw [hw] at h
      refine .settles ?_ hw (h.handles htimely.tells) htimely ?_
      · simp [desk, hd, Doing.desk, hnumber]
      · simp [Doing.desk, hnumber]
  | crash hd => exact absurd hd (h.not_crashing hcan hdelay)
  | @fail w e agent hd =>
    obtain ⟨htimely, a, h⟩ := (sound_working hd).1 h
    obtain ⟨attempt, token, hw⟩ := h.of_failed
    have hnumber : w.task.number? = none := by rw [hw]; rfl
    refine (abandon_closes (l.keep w.task agent) w).minds [] ?_ hnumber
      (h.retries hnumber) (keep_numbers hnumber)
    simp [desk, hd, Doing.desk, hnumber]
  | send hd hc => exact h.minds_sent hd
  | refuse hd hc => exact h.minds_refused hd (closed_ne_nil hc)
  | hear hd hc n => exact .hears (by rw [desk, hd]; rfl) rfl
  | retry hd hc he hn ht => exact .retries (by rw [desk, hd]; rfl) he hn ht rfl
  | start hd | lose hd _ =>
    refine .aside ?_ rfl rfl rfl ignores_rebuild
    rw [desk, desk, hd]
    rfl
  | wake hd _ =>
    refine .aside ?_ rfl rfl rfl (ignores_openWatch _)
    rw [desk, desk, hd]
    rfl
  | quit hd _ | stop hd _ | stepDown hd _ _ =>
    refine .aside ?_ rfl rfl rfl (ignores_leave _)
    rw [desk, desk, hd]
    rfl
  | tick hd _ =>
    refine .aside ?_ rfl rfl rfl (List.forall_mem_singleton.2 (ignores_begun rfl))
    rw [desk, desk, hd]
    rfl

end Life

end StageRelay
