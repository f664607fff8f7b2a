import StageRelay.Proofs.Agent.Opening
import StageRelay.Proofs.Interleaving.Undisturbed
import StageRelay.Proofs.Publishing.Waiting

/-!
# Convergence of what is published

What is published for a stage is what the registry holds for it, or the stage is still to be
committed. A change makes the stage wait before anybody else notices it; from then on the stage is
never forgotten until a segment with it is begun, and while the segment is under way either what is
held for the stage stays the same, or the stage waits again.
-/

namespace StageRelay

namespace Publishing

/-! ## Stages under way -/

/-- What is known of a stage whose segment is under way, while what is held for it stays the same. -/
def Underway (s : Stage) (κ : Content) (d : Downstream) : Progress → Prop
  | .idle => False
  | .committing running ended =>
    (∀ task ∈ running, task.stage.same s →
      ∃ m : Mark, m.Holds s κ d ∧ task.job.wp (commits s κ) Ends m) ∧
    ∀ e ∈ ended, e.stage.same s → e.result = .ok () ∧ Mark.kept.Holds s κ d
  | .ending _ job =>
    ∃ m : Mark, m.Holds s κ d ∧ job.wp (commits s κ) (fun _ m ↦ m = .published) m

section Underway

variable {s t : Stage} {κ : Content} {d d' : Downstream} {before after : List CommitTask}
  {ended : List Commit.Ended}

/-- One commit goes on, and what is known of the others stays true. -/
theorem Underway.advance {job job' : Job (Except CommitFailure Unit)}
    (h : Underway s κ d (.committing (before ++ ⟨t, job⟩ :: after) ended))
    (hmarks : ∀ m : Mark, m.Holds s κ d → m.Holds s κ d')
    (htask : t.same s → ∃ m : Mark, m.Holds s κ d' ∧ job'.wp (commits s κ) Ends m) :
    Underway s κ d' (.committing (before ++ ⟨t, job'⟩ :: after) ended) := by
  obtain ⟨htasks, hended⟩ := h
  have hothers (task : CommitTask) (h : task.stage.same s →
      ∃ m : Mark, m.Holds s κ d ∧ task.job.wp (commits s κ) Ends m) (hs : task.stage.same s) :
      ∃ m : Mark, m.Holds s κ d' ∧ task.job.wp (commits s κ) Ends m := by
    obtain ⟨m, hm, hwp⟩ := h hs
    exact ⟨m, hmarks m hm, hwp⟩
  constructor
  · simp only [List.forall_mem_append, List.forall_mem_cons] at htasks ⊢
    obtain ⟨hbefore, -, hafter⟩ := htasks
    exact ⟨fun task ht ↦ hothers task (hbefore task ht), htask,
      fun task ht ↦ hothers task (hafter task ht)⟩
  · intro e he hes
    obtain ⟨hresult, hkept⟩ := hended e he hes
    exact ⟨hresult, hmarks .kept hkept⟩

/-- One commit ends. -/
theorem Underway.join {result : Except CommitFailure Unit}
    (h : Underway s κ d (.committing (before ++ ⟨t, .done result⟩ :: after) ended))
    (hresult : t.same s → result = .ok () ∧ Mark.kept.Holds s κ d) :
    Underway s κ d (.committing (before ++ after) (ended ++ [⟨t, result⟩])) := by
  obtain ⟨htasks, hended⟩ := h
  simp only [List.forall_mem_append, List.forall_mem_cons] at htasks
  obtain ⟨hbefore, -, hafter⟩ := htasks
  constructor
  · rw [List.forall_mem_append]
    exact ⟨hbefore, hafter⟩
  · rw [List.forall_mem_append, List.forall_mem_singleton]
    exact ⟨hended, hresult⟩

end Underway

/-- The invariant of a stage. -/
inductive Good (x : System) (s : Stage) : Prop
  | queued (h : ∃ t ∈ x.queued, t.same s)
  | underway (h : ∃ t ∈ x.progress.stages, t.same s)
    (hu : Underway s (x.store.content s) x.services.downstream x.progress)
  | published (h : ∀ t ∈ x.progress.stages, ¬ t.same s)
    (hp : Mark.published.Holds s (x.store.content s) x.services.downstream)

section Steps

variable {x y : System} {s : Stage}

theorem Good.of_begins {t : Stage} (h : Begins y.progress t) (hts : t.same s) : Good y s := by
  obtain ⟨segment, ht, hprogress⟩ := h
  have hstages : t ∈ y.progress.stages := by
    rw [hprogress]
    simpa [Progress.stages] using ht
  refine .underway ⟨t, hstages, hts⟩ ?_
  rw [hprogress]
  constructor
  · intro task htask hsame
    obtain ⟨u, -, rfl⟩ := List.mem_map.1 htask
    exact ⟨.fresh, trivial, commitStage_spec hsame⟩
  · intro e he
    cases he

/-- A stage that waited waits still, or its segment has begun. -/
theorem Good.of_keeps (hk : Keeps x y) (h : ∃ t ∈ x.queued, t.same s) : Good y s := by
  obtain ⟨t, ht, hts⟩ := h
  rcases hk t ht with ⟨u, hu, hut⟩ | hbegins
  · exact .queued ⟨u, hu, Stage.same_trans hut hts⟩
  · exact .of_begins hbegins hts

/-- Nothing that matters for a stage changes. -/
theorem Good.congr (h : Good x s) (hk : Keeps x y) (hprogress : y.progress = x.progress)
    (hcontent : y.store.content s = x.store.content s)
    (hdownstream : y.services.downstream = x.services.downstream) : Good y s := by
  cases h with
  | queued h => exact .of_keeps hk h
  | underway h hu => exact .underway (hprogress ▸ h) (hprogress ▸ hcontent ▸ hdownstream ▸ hu)
  | published h hp => exact .published (hprogress ▸ h) (hcontent ▸ hdownstream ▸ hp)

/-- The agent changes nothing that is published. -/
theorem Good.resume (h : Good x s) {n? : Option Notice} {job : Job (Agent.Handled × AgentState)}
    (hk : Keeps x (y.resume n? job)) (hprogress : y.progress = x.progress)
    (hcontent : y.store.content s = x.store.content s)
    (hdownstream : y.services.downstream = x.services.downstream) : Good (y.resume n? job) s := by
  rcases job with ⟨_ | _, _⟩ | _ <;> exact h.congr hk hprogress hcontent hdownstream

namespace Tidy

/-- A change of the registry is noted, or it concerns another stage. -/
theorem good_change (h : Tidy x) (hg : Good x s) (hs : s.Named) {r : Registry}
    (hc : x.services.registry.Change rules x.watch r) : Good (x.withRegistry r) s := by
  have hk := (h.change hc).2
  rcases h.exists_notice_of_change hc with rfl | ⟨n, -, -, hbuffer, -, hcontent⟩
  · exact hg
  · by_cases hns : n.stage.same s
    · refine .queued ⟨n.stage, mem_queued.2 (.inl ?_), hns⟩
      have hbuffer : (x.withRegistry r).buffer = x.buffer ++ [n] := hbuffer
      simp [hbuffer]
    · exact hg.congr hk rfl (hcontent s hs.plain hns) rfl

section Task

variable {t : Stage} {before after : List CommitTask} {ended : List Commit.Ended}

theorem good_commit (h : Tidy x) (hg : Good x s) {β : Type} {c : Call β}
    {next : β → Job (Except CommitFailure Unit)}
    (hp : x.progress = .committing (before ++ ⟨t, .call c next⟩ :: after) ended) :
    Good { x with
      services := (x.services.answer c).2
      progress := .committing (before ++ ⟨t, next (x.services.answer c).1⟩ :: after) ended } s := by
  have honly := h.task_only hp
  have hcall : OfStage t c := honly.1
  have hpasses := passes_answer h.timer h.waiting (hcall.harmless (h.task_named hp))
  have hk := (h.commit hp hpasses (honly.2 (x.services.answer c).1)).2
  have hcontent : (x.services.answer c).2.registry.store.content s = x.store.content s := by
    rw [hpasses.registry, System.store]
  cases hg with
  | queued h => exact .of_keeps hk h
  | published hnot hpub =>
    rw [hp] at hnot
    have hts : ¬ t.same s := hnot t (by simp [Progress.stages])
    refine .published (fun u hu ↦ hnot u (mem_stages_commit.1 hu)) ?_
    rw [System.store, hcontent]
    exact hpub.ofStage hcall (hcall.sound hts)
  | underway hin hu =>
    rw [hp] at hin hu
    obtain ⟨u, hin, hus⟩ := hin
    have hgood (hsound : Sound s (x.store.content s) c) (htask : t.same s → ∃ m : Mark,
        m.Holds s (x.store.content s) (x.services.answer c).2.downstream ∧
          (next (x.services.answer c).1).wp (commits s (x.store.content s)) Ends m) :
        Good { x with
          services := (x.services.answer c).2
          progress := .committing (before ++ ⟨t, next (x.services.answer c).1⟩ :: after) ended } s := by
      refine .underway ⟨u, mem_stages_commit.1 hin, hus⟩ ?_
      rw [System.store, hcontent]
      exact hu.advance (fun m hm ↦ hm.ofStage hcall hsound) htask
    by_cases hts : t.same s
    · obtain ⟨m, hm, hwp⟩ := hu.1 ⟨t, .call c next⟩ (by simp) hts
      rcases hwp with hput | ⟨hsound, hnext⟩
      · obtain ⟨v, hv, hvs⟩ := exists_waits_of_putsBack x.services hput
        exact .queued ⟨v, mem_queued.2 (.inr (.inr (.inl hv))), hvs⟩
      · exact hgood hsound fun _ ↦ ⟨_, hm.after hsound, hnext x.services rfl⟩
    · exact hgood (hcall.sound hts) fun h ↦ absurd h hts

theorem good_crash (h : Tidy x) (hg : Good x s) {job : Job (Except CommitFailure Unit)}
    (hp : x.progress = .committing (before ++ ⟨t, job⟩ :: after) ended) :
    Good { x with
      progress := .committing (before ++ ⟨t, .done (.error .crashed)⟩ :: after) ended } s := by
  have hcrashed : (Job.done (.error .crashed) : Job (Except CommitFailure Unit)).Only (OfStage t) :=
    trivial
  have hk := (h.commit hp (Passes.refl h.timer h.waiting) hcrashed).2
  cases hg with
  | queued h => exact .of_keeps hk h
  | published hnot hpub =>
    rw [hp] at hnot
    exact .published (fun u hu ↦ hnot u (mem_stages_commit.1 hu)) hpub
  | underway hin hu =>
    rw [hp] at hin hu
    obtain ⟨u, hin, hus⟩ := hin
    refine .underway ⟨u, mem_stages_commit.1 hin, hus⟩ (hu.advance (fun _ hm ↦ hm) ?_)
    intro _
    exact ⟨.fresh, trivial, trivial⟩

/-- A commit that ends without having put its stage back has crashed or kept its configuration. -/
theorem good_join (h : Tidy x) (hg : Good x s) {result : Except CommitFailure Unit}
    (hp : x.progress = .committing (before ++ ⟨t, .done result⟩ :: after) ended) :
    Good { x with
      services := ((Commit.join t result).run Services.host x.services).2
      progress := .committing (before ++ after) (ended ++ [⟨t, result⟩]) } s := by
  have hpasses := passes_run h.timer h.waiting
    ((join_only t result).mono fun c hc ↦ hc.harmless (h.task_named hp))
  have hk := (h.join hp hpasses result).2
  have hcontent : ((Commit.join t result).run Services.host x.services).2.registry.store.content s =
      x.store.content s := by
    rw [hpasses.registry, System.store]
  have hdownstream : ((Commit.join t result).run Services.host x.services).2.downstream =
      x.services.downstream := by
    rcases result with (- | -) | - <;> rfl
  cases hg with
  | queued h => exact .of_keeps hk h
  | published hnot hpub =>
    rw [hp] at hnot
    refine .published (fun u hu ↦ hnot u (mem_stages_join.1 hu)) ?_
    rwa [System.store, hcontent, hdownstream]
  | underway hin hu =>
    rw [hp] at hin hu
    obtain ⟨u, hin, hus⟩ := hin
    have hgood (hresult : t.same s → result = .ok () ∧
        Mark.kept.Holds s (x.store.content s) x.services.downstream) : Good { x with
          services := ((Commit.join t result).run Services.host x.services).2
          progress := .committing (before ++ after) (ended ++ [⟨t, result⟩]) } s := by
      refine .underway ⟨u, mem_stages_join.2 hin, hus⟩ ?_
      rw [System.store, hcontent, hdownstream]
      exact hu.join hresult
    by_cases hts : t.same s
    · obtain ⟨m, hm, hends⟩ := hu.1 ⟨t, .done result⟩ (by simp) hts
      rcases result with (e | -) | ⟨⟩
      · exact hends.elim
      · refine .queued ⟨t.forRetry, mem_queued.2 (.inr (.inr (.inl ?_))), hts⟩
        exact Debouncer.mem_stages_update_self
      · refine hgood fun _ ↦ ⟨rfl, ?_⟩
        have hends : m = .kept := hends
        rwa [← hends]
    · exact hgood fun h ↦ absurd h hts

end Task

/-- Where all commits of a segment have ended, what they kept is to be published. -/
theorem good_finish (h : Tidy x) (hg : Good x s) {ended : List Commit.Ended}
    (hp : x.progress = .committing [] ended) :
    Good (x.resumeEnding (ended.map Commit.Ended.stage) (Commit.endSegment ended)) s := by
  have hnamed := h.underway
  rw [hp] at hnamed
  have hk := (h.resumeEnding (Passes.refl h.timer h.waiting) hnamed
    (endSegment_only fun e he ↦ hnamed e.stage (List.mem_map_of_mem he))).2
  cases hg with
  | queued h => exact .of_keeps hk h
  | published hnot hpub =>
    rw [hp] at hnot
    exact .published hnot hpub
  | underway hin hu =>
    rw [hp] at hin hu
    obtain ⟨t, ht, hts⟩ := hin
    obtain ⟨e, he, rfl⟩ := List.mem_map.1 ht
    obtain ⟨hresult, hkept⟩ := hu.2 e he hts
    have hok : e.isOk := by rw [Commit.Ended.isOk, hresult]; rfl
    exact .underway ⟨e.stage, ht, hts⟩ ⟨.kept, hkept, endSegment_spec ⟨e, he, hts, hok⟩⟩

theorem good_conclude (h : Tidy x) (hg : Good x s) {segment : List Stage} {β : Type} {c : Call β}
    {next : β → Job Unit} (hp : x.progress = .ending segment (.call c next)) :
    Good (({ x with services := (x.services.answer c).2 } : System).resumeEnding segment
      (next (x.services.answer c).1)) s := by
  have hcalls := h.calls
  have hnamed := h.underway
  rw [hp] at hcalls hnamed
  have hcall : OfEnd c := hcalls.1
  have hpasses := passes_answer h.timer h.waiting hcall.harmless
  have hk := (h.resumeEnding hpasses hnamed (hcalls.2 (x.services.answer c).1)).2
  have hcontent : (x.services.answer c).2.registry.store.content s = x.store.content s := by
    rw [hpasses.registry, System.store]
  cases hg with
  | queued h => exact .of_keeps hk h
  | published hnot hpub =>
    rw [hp] at hnot
    have hpub : Mark.published.Holds s ((x.services.answer c).2.registry.store.content s)
        (x.services.answer c).2.downstream := by
      have hafter := hpub.after hcall.sound
      rwa [hcall.published_after, ← hcontent] at hafter
    cases next (x.services.answer c).1 with
    | done _ => exact .published (fun t ht ↦ absurd ht List.not_mem_nil) hpub
    | call c' next' => exact .published hnot hpub
  | underway hin hu =>
    rw [hp] at hin hu
    obtain ⟨m, hm, hwp⟩ := hu
    rcases hwp with hput | ⟨hsound, hnext⟩
    · obtain ⟨u, hu, hus⟩ := exists_waits_of_putsBack x.services hput
      cases next (x.services.answer c).1 with
      | done _ => exact .queued ⟨u, mem_queued.2 (.inr (.inr (.inl hu))), hus⟩
      | call c' next' => exact .queued ⟨u, mem_queued.2 (.inr (.inr (.inl hu))), hus⟩
    · have hm := hm.after hsound
      have hnext := hnext x.services rfl
      rw [← hcontent] at hm hnext
      cases hjob : next (x.services.answer c).1 with
      | done _ =>
        rw [hjob] at hnext
        have hpublished : m.after s c (x.services.answer c).1 = .published := hnext
        rw [hpublished] at hm
        exact .published (fun t ht ↦ absurd ht List.not_mem_nil) hm
      | call c' next' =>
        rw [hjob] at hnext
        exact .underway hin ⟨_, hm, hnext⟩

theorem good_begin (h : Tidy x) (hg : Good x s) {segment : List Stage}
    {segments : List (List Stage)} (hp : x.progress = .idle)
    (hs : x.segments = segment :: segments) :
    Good (({ x with segments } : System).beginSegment segment) s := by
  have hk := (h.begin hs).2
  have hnamed : ∀ t ∈ segment, t.Named := by
    intro t ht
    refine h.queued t (mem_queued.2 (.inr (.inr (.inr (.inr ?_)))))
    simp [hs, ht]
  cases hg with
  | queued h => exact .of_keeps hk h
  | published hnot hpub =>
    rw [beginSegment_eq hnamed]
    split
    · exact .published hnot hpub
    · by_cases hin : ∃ t ∈ segment, t.same s
      · obtain ⟨t, ht, hts⟩ := hin
        exact .of_begins ⟨segment, ht, rfl⟩ hts
      · refine .published (fun t ht hts ↦ hin ⟨t, ?_, hts⟩) hpub
        simpa [Progress.stages] using ht
  | underway hin hu =>
    rw [hp] at hu
    exact hu.elim

/-- Every step keeps a stage good. -/
theorem good_step (h : Tidy x) (hg : Good x s) (hs : s.Named) (hstep : x.Step rules y) :
    Good y s := by
  have hk := (h.step hstep).2
  cases hstep with
  | change hc => exact h.good_change hg hs hc
  | pass now faults strictNames crashing hnow => exact hg.congr hk rfl rfl rfl
  | hear hi hn => exact hg.resume hk rfl rfl rfl
  | retry hi hn =>
    obtain ⟨he, -⟩ := hn
    rw [h.retries] at he
    cases he
  | tick hi => exact hg.resume hk rfl rfl rfl
  | @work n? β c next ha hc =>
    have hbusy := h.busy
    rw [ha] at hbusy
    cases n? with
    | some n =>
      obtain ⟨a, -, hjob | hjob⟩ := hbusy
      · cases hjob
        exact hg.resume hk rfl rfl rfl
      · cases hjob
        exact hg.resume hk rfl rfl rfl
    | none =>
      obtain ⟨a, next', -, hjob, -⟩ := hbusy
      cases hjob
      exact hg.resume hk rfl rfl rfl
  | send ha hb hc => exact hg.congr hk rfl rfl rfl
  | receive hp hs hc => exact hg.congr hk rfl rfl rfl
  | begin hp hs => exact h.good_begin hg hp hs
  | commit hp => exact h.good_commit hg hp
  | crash hp => exact h.good_crash hg hp
  | join hp => exact h.good_join hg hp
  | finish hp => exact h.good_finish hg hp
  | conclude hp => exact h.good_conclude hg hp

/-- So does every run. -/
theorem good_run (h : Tidy x) (hg : Good x s) (hs : s.Named) (hrun : x.Run rules y) : Good y s := by
  induction hrun with
  | refl => exact hg
  | tail hrun hstep ih => exact (h.run hrun).good_step ih hs hstep

end Tidy

end Steps

/-! ## Starts -/

/-- A system whose parties do nothing, with objects and notices of named stages only. -/
structure Rests (x : System) : Prop where
  keyed : x.store.Keyed
  queued : ∀ t ∈ x.queued, t.Named
  notices : ∀ n ∈ x.buffer, n.kind.concernsStage
  timer : x.services.debouncer.Keyed
  retries : x.agent.retries.entries = []
  agent : x.activity = .idle
  committer : x.progress = .idle

/-- A system just after the agent has started: every stage with an object waits in the channel, and
nothing is published for the other stages. -/
structure Bootstrapped (x : System) : Prop extends Rests x where
  listed : ∀ s ∈ x.store.stages, ∃ t ∈ x.channel.batches.flatten, t.same s
  others : ∀ s : Stage, s.Named → (∀ t ∈ x.store.stages, ¬ t.same s) →
    x.services.downstream.kept? s = none ∧ x.services.downstream.published s.gateway s.name = none

/-- A successful start sends the stages that have an object, and withdraws all others. -/
theorem bootstrap_spec {a a' : AgentState} {services services' : Services} {batch : List Stage}
    (h : (Agent.bootstrap.run.run a).run Services.host services = ((.ok batch, a'), services')) :
    batch = services.registry.store.stages.map Stage.withoutReport ∧ a'.retries = a.retries ∧
      services' = services.log (.prune (batch.map Stage.key)) := by
  rw [Agent.run_bootstrap_eq, Job.run_call] at h
  simp only [Services.host, Services.answer] at h
  split at h
  · cases h
  · next stages hstages =>
    split at hstages
    · cases hstages
    · obtain rfl := Except.ok.inj hstages
      simp only [Job.run_call, Services.answer, Services.prune] at h
      split at h
      · cases h
      · next hok =>
        cases hprune : services.faults.prune with
        | true =>
          rw [hprune] at hok
          cases hok
        | false =>
          rw [hprune] at h
          cases h
          exact ⟨rfl, rfl, rfl⟩

/-- A system is bootstrapped once the batch of a successful start has been sent. -/
theorem Rests.bootstrapped {x : System} (h : Rests x) (hobjects : ∀ t ∈ x.store.stages, t.Named)
    {batch : List Stage} {agent : AgentState} {services : Services} {channel : CommitChannel}
    (hrun : (Agent.bootstrap.run.run x.agent).run Services.host x.services =
      ((.ok batch, agent), services))
    (hsend : x.channel.send batch = .sent channel) :
    Bootstrapped { x with services, agent, channel } := by
  obtain ⟨rfl, hretries, rfl⟩ := bootstrap_spec hrun
  have hnamed : ∀ t ∈ x.store.stages.map Stage.withoutReport, t.Named := by
    intro t ht
    obtain ⟨u, hu, rfl⟩ := List.mem_map.1 ht
    exact (hobjects u hu).of_same (Stage.same_refl u)
  have hchannel := flatten_send hsend
  refine ⟨⟨h.keyed, ?_, h.notices, h.timer, hretries ▸ h.retries, h.agent, h.committer⟩,
    ?_, ?_⟩
  · intro t ht
    rcases mem_queued.1 ht with ht | ht | ht | ht | ht
    · exact h.queued t (mem_queued.2 (.inl ht))
    · exact h.queued t (mem_queued.2 (.inr (.inl ht)))
    · exact h.queued t (mem_queued.2 (.inr (.inr (.inl ht))))
    · rw [hchannel, List.mem_append] at ht
      rcases ht with ht | ht
      · exact h.queued t (mem_queued.2 (.inr (.inr (.inr (.inl ht)))))
      · exact hnamed t ht
    · exact h.queued t (mem_queued.2 (.inr (.inr (.inr (.inr ht)))))
  · intro s hs
    refine ⟨s.withoutReport, ?_, Stage.same_refl s⟩
    rw [hchannel]
    exact List.mem_append_right _ (List.mem_map_of_mem hs)
  · intro s hs hnot
    -- the key of the stage is not among those that stay
    have hkey : ¬ ((x.store.stages.map Stage.withoutReport).map Stage.key).contains s.key := by
      intro hmem
      obtain ⟨t, ht, hts⟩ := List.mem_map.1 (List.contains_iff_mem.1 hmem)
      obtain ⟨u, hu, rfl⟩ := List.mem_map.1 ht
      exact hnot u hu ((hobjects u hu).plain.same_of_key hs.plain hts)
    exact ⟨if_neg hkey, if_neg hkey⟩

/-! ## Runs -/

namespace Bootstrapped

variable {x : System}

theorem tidy (h : Bootstrapped x) : Tidy x := by
  refine ⟨h.keyed, h.notices, h.timer, h.queued, ?_, h.retries, ?_, ?_⟩
  · rw [h.committer]
    intro t ht
    cases ht
  · rw [h.agent]
    trivial
  · rw [h.committer]
    trivial

theorem good (h : Bootstrapped x) {s : Stage} (hs : s.Named) : Good x s := by
  by_cases hlisted : ∃ t ∈ x.store.stages, t.same s
  · obtain ⟨t, ht, hts⟩ := hlisted
    obtain ⟨u, hu, hut⟩ := h.listed t ht
    exact .queued ⟨u, mem_queued.2 (.inr (.inr (.inr (.inl hu)))), Stage.same_trans hut hts⟩
  · have hnot : ∀ t ∈ x.store.stages, ¬ t.same s := fun t ht hts ↦ hlisted ⟨t, ht, hts⟩
    obtain ⟨hkept, hpublished⟩ := h.others s hs hnot
    have hobject : x.store.get? .stage ⟨s, s.name⟩ = none := by
      rw [Option.eq_none_iff_forall_ne_some]
      intro r hr
      obtain ⟨hmem, hkind, hsame, -⟩ := h.keyed.mem_of_get? hs.plain hr
      obtain ⟨t, ht, htr⟩ := h.keyed.exists_mem_stages hmem hkind
      exact hnot t ht (Stage.same_trans htr hsame)
    refine .published ?_ ⟨?_, ?_⟩
    · rw [h.committer]
      intro t ht
      cases ht
    · rw [Content.configuration, Store.content, hobject, Downstream.current, hpublished]
      rfl
    · rw [hkept]
      rintro c ⟨⟩

end Bootstrapped

/-- What is published for a good stage is up to date, or it is still to be committed. -/
theorem Good.current_or_pending {x : System} {s : Stage} (h : Good x s) :
    x.store.configuration s = .ok (x.services.downstream.current s) ∨ x.Pending s := by
  cases h with
  | queued h =>
    obtain ⟨t, ht, hts⟩ := h
    exact .inr ⟨t, List.mem_append_left _ ht, hts⟩
  | underway h hu =>
    obtain ⟨t, ht, hts⟩ := h
    exact .inr ⟨t, List.mem_append_right _ ht, hts⟩
  | published h hp => exact .inl hp.1

/-- In a system at rest it is so as soon as the agent has started. -/
theorem current_or_pending_after_start {x y : System} (h : Rests x)
    (hobjects : ∀ t ∈ x.store.stages, t.Named) {batch : List Stage} {agent : AgentState}
    {services : Services} {channel : CommitChannel}
    (hstart : (Agent.bootstrap.run.run x.agent).run Services.host x.services =
      ((.ok batch, agent), services))
    (hsend : x.channel.send batch = .sent channel)
    (hrun : ({ x with services, agent, channel } : System).Run rules y) {s : Stage} (hs : s.Named) :
    y.store.configuration s = .ok (y.services.downstream.current s) ∨ y.Pending s := by
  have hx := h.bootstrapped hobjects hstart hsend
  exact (hx.tidy.good_run (hx.good hs) hs hrun).current_or_pending

/-- In every reachable state, what was last published for a stage is what the stored objects convert
to, or the stage is still to be committed. -/
theorem published_or_pending {x y : System} (hx : Bootstrapped x) (hrun : x.Run rules y) {s : Stage}
    (hs : s.Named) :
    y.store.configuration s = .ok (y.services.downstream.current s) ∨ y.Pending s := by
  have hgood : Good y s := hx.tidy.good_run (hx.good hs) hs hrun
  exact hgood.current_or_pending

/-- The stages of the first batch are published once it has been committed. -/
theorem published_after_commitBatch :
    let stage : Stage := { gateway := "gateway", name := "stage" }
    let route : Resource := { kind := .route, stage, name := "route", spec := .object [] }
    let store := (({} : Store).put { kind := .stage, stage, name := "stage" }).put route
    let x : System :=
      { services := { registry := { store, watches := [{}] } }, maxRetries := 3, segmentSize := 1
        watch := 0, channel := { capacity := 1, batches := [[stage]] }
        agent := { directory := .empty true, retries := { capacity := 1, delay := 1 } } }
    let services := ((Commit.commitBatch 1 [stage]).run Services.host x.services).2
    let y : System := { x with services, channel := { capacity := 1 } }
    Bootstrapped x ∧ x.Run rules y ∧ stage.Named ∧ ¬ y.Pending stage ∧
      (y.services.downstream.current stage).routes.length = 1 ∧
      y.store.configuration stage = .ok (y.services.downstream.current stage) := by
  intro stage route store x services y
  have hs : stage.Named := by decide
  have hkeyed : store.Keyed := (Store.Keyed.empty.put hs.plain).put hs.plain
  have heval : (∀ t ∈ x.queued, t.Named) ∧ (∀ t ∈ x.store.stages, t.same stage) ∧
      ¬ y.Pending stage ∧ (y.services.downstream.current stage).routes.length = 1 := by
    decide +kernel
  obtain ⟨hqueued, hstages, hpending, hroutes⟩ := heval
  have hrests : Rests x := by
    refine ⟨hkeyed, hqueued, ?_, ?_, rfl, rfl, rfl⟩
    · intro n hn
      cases hn
    · intro e he
      cases he
  have hx : Bootstrapped x := by
    refine ⟨hrests, ?_, fun t _ _ ↦ ⟨rfl, rfl⟩⟩
    intro t ht
    exact ⟨stage, List.mem_singleton_self stage, Stage.same_comm.1 (hstages t ht)⟩
  have hrun : x.Run rules y := System.run_commitBatch rfl rfl rfl
  refine ⟨hx, hrun, hs, hpending, hroutes, ?_⟩
  exact (published_or_pending hx hrun hs).resolve_right hpending

end Publishing

end StageRelay
