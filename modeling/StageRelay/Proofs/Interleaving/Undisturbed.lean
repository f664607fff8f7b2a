import StageRelay.Proofs.Agent.Tick
import StageRelay.Proofs.Interleaving.System
import StageRelay.Proofs.Work.Spec

/-!
# Undisturbed work

A job that nobody disturbs does in a run what it does by itself.
-/

namespace StageRelay

/-- Whether all calls of an undisturbed job are answered. -/
def Rules.allow {α : Type} (rules : Rules) : Job α → Services → Bool
  | .done _, _ => true
  | .call c next, s => rules.answers c && rules.allow (next (s.answer c).1) (s.answer c).2

theorem Rules.allow_of_forall (rules : Rules) {α : Type}
    (hr : ∀ {β : Type} (c : Call β), rules.answers c) (job : Job α) (services : Services) :
    rules.allow job services := by
  induction job generalizing services with
  | done a => rfl
  | call c next ih => exact Bool.and_eq_true_iff.2 ⟨hr c, ih _ _⟩

namespace System

variable {rules : Rules} {x : System}

/-- The agent goes on with a job until it is done. -/
theorem run_resume (n? : Option Notice) (job : Job (Agent.Handled × AgentState))
    (h : rules.allow job x.services) :
    (x.resume n? job).Run rules
      ({ x with services := (job.run Services.host x.services).2 }.resume n?
        (.done (job.run Services.host x.services).1)) := by
  induction job generalizing x with
  | done r => exact .refl
  | call c next ih =>
    obtain ⟨hc, hnext⟩ := Bool.and_eq_true_iff.1 h
    have hstep := Step.work (x := x.resume n? (.call c next)) rfl hc
    have hrest := ih _ (x := { x with services := (x.services.answer c).2 }) hnext
    refine .head hstep ?_
    -- resuming forgets what the agent was doing before
    have hresume (job : Job (Agent.Handled × AgentState)) (services : Services) :
        ({ x.resume n? (.call c next) with services }).resume n? job =
          ({ x with services }).resume n? job := by
      rcases job with ⟨- | -, -⟩ | - <;> rfl
    rw [show (x.resume n? (.call c next)).services = x.services from rfl, hresume]
    exact hrest

/-- What the agent does at a tick. -/
def tickJob (x : System) : Job (Agent.Handled × AgentState) :=
  (Agent.tick.run x.agent).bind fun (batch, agent) ↦ .done (.batch batch, agent)

/-- A tick that nobody disturbs. -/
theorem run_tick (hi : x.activity = .idle) (h : rules.allow x.tickJob x.services) :
    x.Run rules { x with
      services := x.services.afterTick
      activity := .sending (x.services.batchFor x.services.drain.1) } := by
  have hrun := run_resume (x := x) none _ h
  rw [tickJob, Job.run_bind, Agent.run_tick] at hrun
  exact .head (.tick hi) hrun

/-- What an undisturbed agent makes of the notice of a resource. -/
def handled (x : System) (r : Resource) : (Agent.Handled × AgentState) × Services :=
  ((Agent.handle x.maxRetries r.notice).run x.agent).run Services.host
    { x.services with registry := (x.services.registry.put r).setWatch x.watch {} }

/-- The system after a resource was put and the undisturbed agent handled its notice. -/
def absorb (x : System) (r : Resource) : System :=
  { x with services := (x.handled r).2, agent := (x.handled r).1.2 }

/-- Whether an agent at rest can absorb a resource. -/
structure Absorbs (rules : Rules) (x : System) (r : Resource) : Prop where
  watch : x.services.registry.watches[x.watch]? = some {}
  allows : rules.allow ((Agent.handle x.maxRetries r.notice).run x.agent)
    { x.services with registry := (x.services.registry.put r).setWatch x.watch {} }
  batch : (x.handled r).1.1 = .batch []

instance {r : Resource} : Decidable (Absorbs rules x r) :=
  decidable_of_iff (x.services.registry.watches[x.watch]? = some {} ∧
    rules.allow ((Agent.handle x.maxRetries r.notice).run x.agent)
      { x.services with registry := (x.services.registry.put r).setWatch x.watch {} } ∧
    (x.handled r).1.1 = .batch []) ⟨fun h ↦ ⟨h.1, h.2.1, h.2.2⟩, fun h ↦ ⟨h.1, h.2, h.3⟩⟩

theorem step_put {r : Resource} (h : x.services.registry.watches[x.watch]? = some {})
    (hp : rules.puts r) : Step rules x (x.withRegistry (x.services.registry.put r)) :=
  .change (.put hp ⟨{}, h, rfl, by decide⟩)

/-- The agent handles the notice of a resource that was put. -/
theorem run_absorb_put {r : Resource} (h : Absorbs rules x r) (hi : x.activity = .idle) :
    (x.withRegistry (x.services.registry.put r)).Run rules (x.absorb r) := by
  let registry := x.services.registry.put r
  have hreceive : registry.receive x.watch = .notice r.notice {} := by
    simp [registry, Registry.receive, Registry.put, Watches.notify, h.watch, Watch.offer,
      Watch.capacity, Watch.next]
  have hhear : Step rules (x.withRegistry registry)
      ((x.withRegistry (registry.setWatch x.watch {})).handle r.notice) := .hear hi hreceive
  have hend (services : Services) (result : Agent.Handled × AgentState)
      (hresult : result.1 = .batch []) :
      ({ x with services } : System).resume (some r.notice) (.done result) =
        { x with services, agent := result.2, activity := .sending [] } := by
    obtain ⟨batch, agent⟩ := result
    cases hresult
    rfl
  -- the batch is empty, and the channel takes it whether it has room or not
  have hsend : Step rules
      { x with services := (x.handled r).2, agent := (x.handled r).1.2, activity := .sending [] }
      { x with services := (x.handled r).2, agent := (x.handled r).1.2, activity := .idle } :=
    .send rfl .nil rfl
  rw [← hend _ _ h.batch, ← hi] at hsend
  exact .head hhear ((run_resume (some r.notice) _ h.allows).tail hsend)

theorem run_absorb {r : Resource} (h : Absorbs rules x r) (hi : x.activity = .idle)
    (hp : rules.puts r) : x.Run rules (x.absorb r) :=
  .head (step_put h.watch hp) (run_absorb_put h hi)

/-! ## The committer -/

/-- The system with commits under way. -/
def committing (x : System) (services : Services) (running : List CommitTask)
    (ended : List Commit.Ended) : System :=
  { x with services, progress := .committing running ended }

/-- Commits that run one after the other. -/
def inTurn (stages : List Stage) : Job (List Commit.Ended) :=
  stages.mapM fun s ↦ do Commit.join s (← Commit.commitStage s)

section Committer

variable {s : Stage} {ended : List Commit.Ended}

theorem step_commit (services : Services) {β : Type} (c : Call β)
    (next : β → Job (Except CommitFailure Unit)) (after : List CommitTask) :
    Step rules (x.committing services (⟨s, .call c next⟩ :: after) ended)
      (x.committing (services.answer c).2 (⟨s, next (services.answer c).1⟩ :: after) ended) :=
  .commit (show _ = Progress.committing ([] ++ _) _ from rfl)

theorem step_join (services : Services) (r : Except CommitFailure Unit) (after : List CommitTask) :
    Step rules (x.committing services (⟨s, .done r⟩ :: after) ended)
      (x.committing ((Commit.join s r).run Services.host services).2 after (ended ++ [⟨s, r⟩])) :=
  .join (show _ = Progress.committing ([] ++ _) _ from rfl)

theorem run_task (job : Job (Except CommitFailure Unit)) (services : Services)
    (after : List CommitTask) :
    (x.committing services (⟨s, job⟩ :: after) ended).Run rules
      (x.committing (job.run Services.host services).2
        (⟨s, .done (job.run Services.host services).1⟩ :: after) ended) := by
  induction job generalizing services with
  | done r => exact .refl
  | call c next ih => exact .head (step_commit services c next after) (ih _ _)

theorem run_join (s : Stage) (r : Except CommitFailure Unit) (services : Services) :
    ((Commit.join s r).run Services.host services).1 = ⟨s, r⟩ := by
  rcases r with (_ | _) | _ <;> rfl

theorem run_inTurn (stages : List Stage) (services : Services) (ended : List Commit.Ended) :
    (x.committing services (stages.map fun s ↦ ⟨s, Commit.commitStage s⟩) ended).Run rules
      (x.committing ((inTurn stages).run Services.host services).2 []
        (ended ++ ((inTurn stages).run Services.host services).1)) := by
  induction stages generalizing services ended with
  | nil =>
    show (x.committing services [] ended).Run rules (x.committing services [] (ended ++ []))
    rw [List.append_nil]
  | cons s stages ih =>
    obtain ⟨⟨result, services'⟩, hresult⟩ :
      ∃ r, (Commit.commitStage s).run Services.host services = r := ⟨_, rfl⟩
    have htask : (x.committing services ((s :: stages).map fun s ↦ ⟨s, Commit.commitStage s⟩)
        ended).Run rules _ := run_task (Commit.commitStage s) services _
    have hrest := ih ((Commit.join s result).run Services.host services').2 (ended ++ [⟨s, result⟩])
    have hcons : (inTurn (s :: stages)).run Services.host services =
        (⟨s, result⟩ :: ((inTurn stages).run Services.host
            ((Commit.join s result).run Services.host services').2).1,
          ((inTurn stages).run Services.host
            ((Commit.join s result).run Services.host services').2).2) := by
      simp only [inTurn, List.mapM_cons, Job.bind_eq, Job.pure_eq, Job.run_bind, Job.run_done,
        run_join, hresult]
    rw [hresult] at htask
    rw [hcons]
    rw [List.append_assoc, List.singleton_append] at hrest
    exact htask.trans (.head (step_join services' result _) hrest)

theorem run_ending (x : System) {segment : List Stage} (job : Job Unit) (services : Services) :
    (({ x with services } : System).resumeEnding segment job).Run rules
      { x with services := (job.run Services.host services).2, progress := .idle } := by
  induction job generalizing services with
  | done _ => exact .refl
  | call c next ih =>
    -- going on forgets how far the committer was before
    have hresume (job : Job Unit) : ({ x with
        services := (services.answer c).2, progress := .ending segment (.call c next) } :
          System).resumeEnding segment job =
        ({ x with services := (services.answer c).2 } : System).resumeEnding segment job := by
      cases job <;> rfl
    have hstep : Step rules
        (({ x with services } : System).resumeEnding segment (.call c next))
        (({ x with services := (services.answer c).2 } : System).resumeEnding segment
          (next (services.answer c).1)) := by
      rw [← hresume]
      exact .conclude rfl
    exact .head hstep (ih _ _)

/-- A committer that nobody disturbs commits its next segment one stage after the other. -/
theorem run_commitSegment {segment : List Stage} {segments : List (List Stage)}
    (hp : x.progress = .idle) (hs : x.segments = segment :: segments) :
    x.Run rules { x with
      services := ((Commit.commitSegment segment).run Services.host x.services).2, segments } := by
  have hbegin : Step rules x (({ x with segments } : System).beginSegment segment) := .begin hp hs
  unfold System.beginSegment at hbegin
  unfold Commit.commitSegment
  cases hstages : Commit.committable segment with
  | nil =>
    rw [hstages] at hbegin
    exact .single hbegin
  | cons s stages =>
    rw [hstages] at hbegin
    obtain ⟨⟨ended, services⟩, hturn⟩ :
      ∃ r, (inTurn (s :: stages)).run Services.host x.services = r := ⟨_, rfl⟩
    have hcommits : (({ x with segments } : System).committing x.services
        ((s :: stages).map fun s ↦ ⟨s, Commit.commitStage s⟩) []).Run rules _ :=
      run_inTurn (s :: stages) x.services []
    rw [hturn] at hcommits
    have hfinish : Step rules (({ x with segments } : System).committing services [] ended)
        (({ x with services, segments } : System).resumeEnding (ended.map Commit.Ended.stage)
          (Commit.endSegment ended)) := .finish rfl
    have hend : (({ x with services, segments } : System).resumeEnding
        (ended.map Commit.Ended.stage) (Commit.endSegment ended)).Run rules _ :=
      run_ending { x with segments } (Commit.endSegment ended) services
    have hsegment : (Commit.endSegment ended).run Services.host services =
        (inTurn (s :: stages) >>= Commit.endSegment).run Services.host x.services := by
      rw [Job.bind_eq, Job.run_bind, hturn]
    rw [hsegment, ← hp] at hend
    exact .head hbegin (hcommits.trans (.head hfinish hend))

theorem run_segments (segments : List (List Stage)) (hp : x.progress = .idle)
    (hs : x.segments = segments) : x.Run rules { x with
      services := ((segments.forM Commit.commitSegment).run Services.host x.services).2
      segments := [] } := by
  induction segments generalizing x with
  | nil =>
    have hx : { x with segments := [] } = x := by rw [← hs]
    show x.Run rules { x with segments := [] }
    rw [hx]
  | cons segment segments ih =>
    have hsegment : x.Run rules _ := run_commitSegment hp hs
    refine hsegment.trans ?_
    have hrest := ih (x := { x with
      services := ((Commit.commitSegment segment).run Services.host x.services).2, segments }) hp rfl
    rw [List.forM, Job.bind_eq, Job.run_bind]
    exact hrest

/-- So it does with a batch that it takes from the channel. -/
theorem run_commitBatch {batch : List Stage} {channel : CommitChannel} (hp : x.progress = .idle)
    (hs : x.segments = []) (hc : x.channel.receive? = some (batch, channel)) :
    x.Run rules { x with
      channel
      services := ((Commit.commitBatch x.segmentSize batch).run Services.host x.services).2 } := by
  have hreceive : Step rules x { x with channel, segments := Commit.segments x.segmentSize batch } :=
    .receive hp hs hc
  have hsegments : ({ x with channel, segments := Commit.segments x.segmentSize batch } :
      System).Run rules _ := run_segments (Commit.segments x.segmentSize batch) hp rfl
  rw [← hs] at hsegments
  exact .head hreceive hsegments

end Committer

end System

end StageRelay
