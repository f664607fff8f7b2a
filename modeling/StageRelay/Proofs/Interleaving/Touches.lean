import StageRelay.Proofs.Agent.Handlers
import StageRelay.Proofs.Agent.Tick
import StageRelay.Proofs.Batch.InTurn

/-!
# What a step does to the stages that wait

In any run the stages that wait change in four ways only: the agent makes the stage of a notice
wait, or at a tick the stage that stands for all stages; a tick takes out what is due; and the
committer puts back a stage whose commit is under way. What a run does to the stages that wait is
the list of these.
-/

namespace StageRelay

/-- A call that makes only some stages wait, and takes none out. -/
def Call.Postpones (stages : List Stage) {β : Type} : Call β → Prop
  | .postpone s => s ∈ stages
  | .drain => False
  | _ => True

/-! ## Jobs of the agent -/

theorem Call.Serves.postpones {stages : List Stage} {β : Type} {c : Call β}
    (h : c.Serves stages) : c.Postpones stages := by
  cases c with
  | postpone s => exact h
  | drain => exact h
  | _ => trivial

/-! ## Jobs of the committer -/

namespace Commit

theorem postpones_commitStage (s : Stage) : (commitStage s).Only (Call.Postpones [s.forRetry]) := by
  refine (commitStage_only s).mono fun c hc ↦ ?_
  cases c with
  | postpone t => exact List.mem_singleton.2 hc
  | drain => exact hc
  | _ => trivial

/-- The end of a segment puts back only stages of the segment. -/
theorem postpones_endSegment (ended : List Ended) :
    (endSegment ended).Only (Call.Postpones ((ended.map Ended.stage).map Stage.forRetry)) := by
  have hreport (s : Stage) (status : ReleaseStatus) :
      (report s status).Only (Call.Postpones ((ended.map Ended.stage).map Stage.forRetry)) := by
    unfold report
    split
    · trivial
    · exact Job.only_ask trivial
  refine Job.only_bind (Job.only_bind (Job.only_ask trivial) ?_) fun _ ↦ Job.only_forM ?_
  · rintro (e | -)
    · refine Job.only_bind (Job.only_ask trivial) fun _ ↦ Job.only_forM fun s hs ↦ ?_
      refine Job.only_bind (Job.only_ask ?_) fun _ ↦ hreport s _
      obtain ⟨e, he, rfl⟩ := List.mem_map.1 hs
      exact List.mem_map_of_mem (List.mem_map_of_mem (List.mem_filter.1 he).1)
    · exact Job.only_bind (Job.only_ask trivial) fun _ ↦ Job.only_forM fun s _ ↦ hreport s _
  · intro e _
    split
    · trivial
    · exact hreport _ _

end Commit

/-! ## Touches -/

namespace System

/-- What a step does to the stages that wait. -/
inductive Touch where
  /-- The agent, at work on a notice, makes its stage wait. -/
  | heard (n : Notice)
  /-- At a tick the stage that stands for all stages is made to wait again. -/
  | revived
  /-- A tick takes out what is due. -/
  | drained (due : List Stage)
  /-- The committer puts back a stage whose commit is under way. -/
  | putBack (s : Stage)

/-- Steps with what they do to the stages that wait, if they do anything. -/
inductive Touches (x y : System) : List Touch → Prop
  | nothing (h : y.services.debouncer = x.services.debouncer) : Touches x y []
  | heard {n : Notice} {job : Job (Agent.Handled × AgentState)}
    (ha : x.activity = .working (some n) job)
    (h : y.services.debouncer = x.services.debouncer.update x.services.now n.stage) :
    Touches x y [.heard n]
  | revived {job : Job (Agent.Handled × AgentState)} (ha : x.activity = .working none job)
    (h : y.services.debouncer = x.services.debouncer.update x.services.now Stage.all) :
    Touches x y [.revived]
  | drained {job : Job (Agent.Handled × AgentState)} (ha : x.activity = .working none job)
    (h : y.services.debouncer = (x.services.debouncer.drain x.services.now).2) :
    Touches x y [.drained (x.services.debouncer.drain x.services.now).1]
  | putBack {s : Stage} (hs : s ∈ x.progress.stages)
    (h : y.services.debouncer = x.services.debouncer.update x.services.now s.forRetry) :
    Touches x y [.putBack s]

/-- Runs with all that they do to the stages that wait. -/
inductive Traced (rules : Rules) : System → List Touch → System → Prop
  | refl (x : System) : Traced rules x [] x
  | tail {x y z : System} {trace touches : List Touch} (hr : Traced rules x trace y)
    (hs : Step rules y z) (ht : Touches y z touches) : Traced rules x (trace ++ touches) z

end System

/-! ## Every run can be traced -/

/-- The agent makes nothing wait but the stage of its notice, or at a tick the one that stands for
all stages. -/
def Activity.Orderly : Activity → Prop
  | .working (some n) job => job.Only (Call.Postpones [n.stage])
  | .working none job => job.Only Call.Revives
  | _ => True

/-- The committer puts back nothing but stages whose commits are under way. -/
def Progress.Orderly : Progress → Prop
  | .committing running _ => ∀ task ∈ running, task.job.Only (Call.Postpones [task.stage.forRetry])
  | .ending segment job => job.Only (Call.Postpones (segment.map Stage.forRetry))
  | .idle => True

namespace System

/-- The parties do what they should to the stages that wait. -/
structure Orderly (x : System) : Prop where
  agent : x.activity.Orderly
  committer : x.progress.Orderly

variable {rules : Rules} {x y : System}

section Answers

variable (services : Services) {stages : List Stage} {β : Type} {c : Call β}

theorem debouncer_answer_of_postpones (h : c.Postpones stages) :
    (services.answer c).2.debouncer = services.debouncer ∨
      ∃ s ∈ stages, (services.answer c).2.debouncer = services.debouncer.update services.now s := by
  rw [Batch.debouncer_answer]
  cases c with
  | postpone s => exact .inr ⟨s, h, rfl⟩
  | drain => exact h.elim
  | _ => exact .inl rfl

theorem debouncer_answer_of_revives (h : c.Revives) :
    (services.answer c).2.debouncer = services.debouncer ∨
      (services.answer c).2.debouncer = services.debouncer.update services.now Stage.all ∨
      (services.answer c).2.debouncer = (services.debouncer.drain services.now).2 := by
  rw [Batch.debouncer_answer]
  cases c with
  | postpone s =>
    obtain rfl : s = Stage.all := h
    exact .inr (.inl rfl)
  | drain => exact .inr (.inr rfl)
  | _ => exact .inl rfl

end Answers

theorem services_resume (n? : Option Notice) (job : Job (Agent.Handled × AgentState)) :
    (x.resume n? job).services = x.services ∧ (x.resume n? job).progress = x.progress := by
  rcases job with ⟨- | -, -⟩ | - <;> exact ⟨rfl, rfl⟩

theorem orderly_resume {n? : Option Notice} {job : Job (Agent.Handled × AgentState)}
    (hx : x.progress.Orderly) (h : (Activity.working n? job).Orderly) :
    (x.resume n? job).Orderly := by
  rcases job with ⟨batch | -, a⟩ | ⟨c, next⟩
  · exact ⟨trivial, hx⟩
  · exact ⟨trivial, hx⟩
  · exact ⟨h, hx⟩

theorem orderly_resumeEnding {segment : List Stage} {job : Job Unit} (hx : x.activity.Orderly)
    (h : (Progress.ending segment job).Orderly) : (x.resumeEnding segment job).Orderly := by
  cases job with
  | done _ => exact ⟨hx, trivial⟩
  | call c next => exact ⟨hx, h⟩

theorem services_resumeEnding (segment : List Stage) (job : Job Unit) :
    (x.resumeEnding segment job).services = x.services := by
  cases job <;> rfl

theorem Orderly.task {s : Stage} {job : Job (Except CommitFailure Unit)}
    {before after : List CommitTask} {ended : List Commit.Ended} (h : x.Orderly)
    (hp : x.progress = .committing (before ++ ⟨s, job⟩ :: after) ended) :
    job.Only (Call.Postpones [s.forRetry]) ∧ s ∈ x.progress.stages ∧
      (Progress.committing (before ++ after) ended).Orderly ∧
      ∀ job' : Job (Except CommitFailure Unit), job'.Only (Call.Postpones [s.forRetry]) →
        (Progress.committing (before ++ ⟨s, job'⟩ :: after) ended).Orderly := by
  have hc := h.committer
  rw [hp] at hc ⊢
  simp only [Progress.Orderly, List.forall_mem_append, List.forall_mem_cons] at hc ⊢
  obtain ⟨hbefore, htask, hafter⟩ := hc
  exact ⟨htask, by simp [Progress.stages], ⟨hbefore, hafter⟩, fun _ hj ↦ ⟨hbefore, hj, hafter⟩⟩

/-- The end of a commit puts its stage back, or does nothing to the stages that wait. -/
theorem debouncer_join (s : Stage) (r : Except CommitFailure Unit) (services : Services) :
    ((Commit.join s r).run Services.host services).2.debouncer = services.debouncer ∨
      ((Commit.join s r).run Services.host services).2.debouncer =
        services.debouncer.update services.now s.forRetry := by
  rcases r with (_ | _) | _
  · exact .inl rfl
  · exact .inr rfl
  · exact .inl rfl

/-- A step of orderly parties does one of four things to the stages that wait, or nothing. -/
theorem Orderly.step (h : x.Orderly) (hs : Step rules x y) : y.Orderly ∧ ∃ ts, Touches x y ts := by
  have hnothing (hy : y.Orderly) (hd : y.services.debouncer = x.services.debouncer) :
      y.Orderly ∧ ∃ ts, Touches x y ts := ⟨hy, [], .nothing hd⟩
  cases hs with
  | change hc => exact hnothing ⟨h.agent, h.committer⟩ rfl
  | pass now faults strictNames crashing hnow => exact hnothing ⟨h.agent, h.committer⟩ rfl
  | @hear n rest hi hn =>
    refine hnothing (orderly_resume h.committer ((Agent.handle_only _ n _).mono fun _ hc ↦ hc.postpones)) ?_
    rw [System.handle, (services_resume _ _).1]
    rfl
  | @retry n retries hi hn =>
    exact hnothing (orderly_resume h.committer ((Agent.handle_only _ n _).mono fun _ hc ↦ hc.postpones))
      (congrArg Services.debouncer (services_resume _ _).1)
  | tick hi =>
    refine hnothing (orderly_resume h.committer ?_)
      (congrArg Services.debouncer (services_resume _ _).1)
    exact Job.only_bind (Agent.tick_only x.agent) fun _ ↦ trivial
  | @work n? _ c next ha hc =>
    have hjob := h.agent
    rw [ha] at hjob
    cases n? with
    | none =>
      refine ⟨orderly_resume h.committer (hjob.2 _), ?_⟩
      have hservices := (services_resume (x := { x with services := (x.services.answer c).2 }) none
        (next (x.services.answer c).1)).1
      rcases debouncer_answer_of_revives x.services hjob.1 with hd | hd | hd
      · exact ⟨_, .nothing (by rw [hservices, hd])⟩
      · exact ⟨_, .revived ha (by rw [hservices, hd])⟩
      · exact ⟨_, .drained ha (by rw [hservices, hd])⟩
    | some n =>
      refine ⟨orderly_resume h.committer (hjob.2 _), ?_⟩
      have hservices := (services_resume (x := { x with services := (x.services.answer c).2 }) n
        (next (x.services.answer c).1)).1
      rcases debouncer_answer_of_postpones x.services hjob.1 with hd | ⟨s, hs, hd⟩
      · exact ⟨_, .nothing (by rw [hservices, hd])⟩
      · obtain rfl := List.mem_singleton.1 hs
        exact ⟨_, .heard ha (by rw [hservices, hd])⟩
  | send ha hb hsent => exact hnothing ⟨trivial, h.committer⟩ rfl
  | receive hp hs hr => exact hnothing ⟨h.agent, h.committer⟩ rfl
  | @begin segment segments hp hs =>
    unfold System.beginSegment
    split
    · exact ⟨⟨h.agent, h.committer⟩, [], .nothing rfl⟩
    · refine ⟨⟨h.agent, ?_⟩, [], .nothing rfl⟩
      intro task htask
      obtain ⟨s, -, rfl⟩ := List.mem_map.1 htask
      exact Commit.postpones_commitStage s
  | @commit s _ c next before after ended hp =>
    obtain ⟨hjob, hs, -, horderly⟩ := h.task hp
    refine ⟨⟨h.agent, horderly _ (hjob.2 _)⟩, ?_⟩
    rcases debouncer_answer_of_postpones x.services hjob.1 with hd | ⟨t, ht, hd⟩
    · exact ⟨_, .nothing hd⟩
    · obtain rfl := List.mem_singleton.1 ht
      exact ⟨_, .putBack hs hd⟩
  | crash hp =>
    obtain ⟨-, -, -, horderly⟩ := h.task hp
    exact hnothing ⟨h.agent, horderly (.done (.error .crashed)) trivial⟩ rfl
  | @join s r before after ended hp =>
    obtain ⟨-, hs, horderly, -⟩ := h.task hp
    refine ⟨⟨h.agent, horderly⟩, ?_⟩
    rcases debouncer_join s r x.services with hd | hd
    · exact ⟨_, .nothing hd⟩
    · exact ⟨_, .putBack hs hd⟩
  | @finish ended hp =>
    exact hnothing (orderly_resumeEnding h.agent (Commit.postpones_endSegment ended))
      (congrArg Services.debouncer (services_resumeEnding _ _))
  | @conclude segment _ c next hp =>
    have hjob := h.committer
    rw [hp] at hjob
    refine ⟨orderly_resumeEnding h.agent (hjob.2 _), ?_⟩
    have hservices := services_resumeEnding (x := { x with services := (x.services.answer c).2 })
      segment (next (x.services.answer c).1)
    rcases debouncer_answer_of_postpones x.services hjob.1 with hd | ⟨t, ht, hd⟩
    · exact ⟨_, .nothing (by rw [hservices, hd])⟩
    · obtain ⟨s, hs, rfl⟩ := List.mem_map.1 ht
      exact ⟨_, .putBack (by rwa [hp]) (by rw [hservices, hd])⟩

theorem Orderly.exists_traced (h : x.Orderly) (hr : x.Run rules y) :
    y.Orderly ∧ ∃ trace, Traced rules x trace y := by
  induction hr with
  | refl => exact ⟨h, [], .refl x⟩
  | tail _ hs ih =>
    obtain ⟨hy, trace, htrace⟩ := ih
    obtain ⟨hz, touches, htouches⟩ := hy.step hs
    exact ⟨hz, _, htrace.tail hs htouches⟩

end System

end StageRelay
