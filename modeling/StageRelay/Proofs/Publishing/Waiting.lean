import StageRelay.Proofs.Interleaving.System
import StageRelay.Proofs.Publishing.Commits

/-!
# No stage is forgotten

A stage that is still to be committed goes on to be so, from step to step, until a segment with it is
begun. On its way it may change its payload, but not its names.
-/

namespace StageRelay

/-- Whether changes of a kind concern a stage, and nothing else. -/
def Kind.concernsStage (kind : Kind) : Bool :=
  !kind.isCertificate && kind ≠ .gatewayInstance

namespace Publishing

/-! ## Services -/

/-- The calls of a committer that puts back no other stages than named ones. -/
def Harmless {β : Type} : Call β → Prop
  | .postpone t => t.Named
  | .watch => False
  | .drain => False
  | .prune _ => False
  | _ => True

theorem OfStage.harmless {β : Type} {c : Call β} {t : Stage} (h : OfStage t c) (ht : t.Named) :
    Harmless c := by
  cases c with
  | postpone u => exact ht.of_same (Stage.same_comm.1 h)
  | watch => exact h
  | drain => exact h
  | prune existing => exact h
  | _ => trivial

theorem OfEnd.harmless {β : Type} {c : Call β} (h : OfEnd c) : Harmless c := by
  cases c <;> first | exact h | trivial

/-- What becomes of services when a committer calls on them. -/
structure Passes (services services' : Services) : Prop where
  registry : services'.registry = services.registry
  keyed : services'.debouncer.Keyed
  named : ∀ t ∈ services'.debouncer.stages, t.Named
  waits : ∀ t ∈ services.debouncer.stages, ∃ u ∈ services'.debouncer.stages, u.same t

theorem Passes.trans {s s' s'' : Services} (h : Passes s s') (h' : Passes s' s'') :
    Passes s s'' where
  registry := h'.registry.trans h.registry
  keyed := h'.keyed
  named := h'.named
  waits t ht := by
    obtain ⟨u, hu, hut⟩ := h.waits t ht
    obtain ⟨v, hv, hvu⟩ := h'.waits u hu
    exact ⟨v, hv, Stage.same_trans hvu hut⟩

section Passes

variable {services : Services} (hk : services.debouncer.Keyed)
  (hn : ∀ t ∈ services.debouncer.stages, t.Named)
include hk hn

theorem Passes.refl : Passes services services :=
  ⟨rfl, hk, hn, fun t ht ↦ ⟨t, ht, Stage.same_refl t⟩⟩

theorem passes_postpone {t : Stage} (ht : t.Named) : Passes services (services.postpone t) := by
  refine ⟨rfl, hk.update, ?_, ?_⟩
  · intro u hu
    rcases Debouncer.mem_of_mem_stages_update hu with rfl | hu
    · exact ht
    · exact hn u hu
  · intro u hu
    exact hk.exists_mem_stages_update hu ht.plain (hn u hu).plain

theorem passes_answer {β : Type} {c : Call β} (hc : Harmless c) :
    Passes services (services.answer c).2 := by
  have hrefl : Passes services services := Passes.refl hk hn
  cases c with
  | postpone t => exact passes_postpone hk hn hc
  | sync gateway stage config =>
    simp only [Services.answer]
    split <;> exact ⟨rfl, hk, hn, hrefl.waits⟩
  | flush =>
    simp only [Services.answer, Services.flush]
    split <;> exact ⟨rfl, hk, hn, hrefl.waits⟩
  | watch => exact hc.elim
  | drain => exact hc.elim
  | prune existing => exact hc.elim
  | _ => exact ⟨rfl, hk, hn, hrefl.waits⟩

theorem passes_run {α : Type} {j : Job α} (hj : j.Only Harmless) :
    Passes services (j.run Services.host services).2 := by
  induction j generalizing services with
  | done a => exact Passes.refl hk hn
  | call c next ih =>
    have hpasses := passes_answer hk hn hj.1
    exact hpasses.trans (ih _ hpasses.keyed hpasses.named (hj.2 _))

end Passes

theorem exists_waits_of_putsBack (services : Services) {β : Type} {c : Call β} {s : Stage}
    (h : PutsBack s c) : ∃ u ∈ (services.answer c).2.debouncer.stages, u.same s := by
  cases c with
  | postpone t => exact ⟨t, Debouncer.mem_stages_update_self, h⟩
  | _ => exact h.elim

/-! ## The agent -/

/-- The job of handling a notice that concerns a stage. -/
def Hears (n : Notice) (job : Job (Agent.Handled × AgentState)) : Prop :=
  ∃ a : AgentState, a.retries.entries = [] ∧
    (job = .call (.note (.received n.kind)) (fun _ ↦ .call (.postpone n.stage) fun _ ↦
        .done (.batch [], a)) ∨
      job = .call (.postpone n.stage) fun _ ↦ .done (.batch [], a))

/-- The job of a tick when no stage stands for all stages. -/
def Ticks (job : Job (Agent.Handled × AgentState)) : Prop :=
  ∃ (a : AgentState) (next : List Stage → Job (Agent.Handled × AgentState)),
    a.retries.entries = [] ∧ job = .call .drain next ∧
      ∀ due, (∀ t ∈ due, t.isAll = false) → next due = .done (.batch due, a)

theorem hears_handle {n : Notice} (hn : n.kind.concernsStage) (hs : n.stage.Named) (most : UInt32)
    {a : AgentState} (ha : a.retries.entries = []) : Hears n ((Agent.handle most n).run a) := by
  refine ⟨a, ha, .inl ?_⟩
  obtain ⟨hcertificate, hinstance⟩ : n.kind.isCertificate = false ∧ n.kind ≠ .gatewayInstance := by
    simpa [Kind.concernsStage] using hn
  have hall : n.isAll = false := hs.single
  unfold Agent.handle
  rw [if_neg hinstance, hall, hcertificate]
  rfl

/-- While there is something left to do the agent works. -/
theorem Hears.resume {n : Notice} {job : Job (Agent.Handled × AgentState)} (h : Hears n job)
    (x : System) : x.resume (some n) job = { x with activity := .working (some n) job } := by
  obtain ⟨a, -, rfl | rfl⟩ := h <;> rfl

theorem Ticks.resume {job : Job (Agent.Handled × AgentState)} (h : Ticks job) (x : System) :
    x.resume none job = { x with activity := .working none job } := by
  obtain ⟨a, next, -, rfl, -⟩ := h
  rfl

theorem ticks_tick {a : AgentState} (ha : a.retries.entries = []) :
    Ticks ((Agent.tick.run a).bind fun (batch, agent) ↦ .done (.batch batch, agent)) := by
  refine ⟨a, _, ha, rfl, ?_⟩
  intro due hdue
  have hany : due.any Stage.isAll = false := by
    simpa [List.any_eq_false] using hdue
  simp only [Job.pure_eq, Job.bind, hany]
  rfl

/-! ## Batches and segments -/

theorem flatten_send {c c' : CommitChannel} {batch : List Stage} (h : c.send batch = .sent c') :
    c'.batches.flatten = c.batches.flatten ++ batch := by
  unfold CommitChannel.send at h
  split at h
  · next hempty =>
    cases h
    rw [List.isEmpty_iff.1 hempty, List.append_nil]
  · split at h
    · cases h
    · split at h
      · cases h
      · cases h
        rw [List.flatten_append, List.flatten_singleton]

theorem flatten_receive? {c c' : CommitChannel} {batch : List Stage}
    (h : c.receive? = some (batch, c')) : c.batches.flatten = batch ++ c'.batches.flatten := by
  unfold CommitChannel.receive? at h
  split at h
  · cases h
  · next hbatches =>
    cases h
    rw [hbatches, List.flatten_cons]

/-! ## Systems -/

/-- Objects that concern stages come and go, and every call is answered. -/
def rules : Rules where
  puts r := r.kind.concernsStage ∧ r.stage.Named
  removes kind key := kind.concernsStage ∧ key.stage.Named
  answers _ := true

/-- What the agent may be doing. -/
def Busy : Activity → Prop
  | .idle => True
  | .sending _ => True
  | .working (some n) job => Hears n job
  | .working none job => Ticks job
  | .crashed => False

/-- What the committer may be doing. -/
def Calls : Progress → Prop
  | .idle => True
  | .committing running _ => ∀ task ∈ running, task.job.Only (OfStage task.stage)
  | .ending _ job => job.Only OfEnd

/-- A system in which all is as it should be, apart from what is published. -/
structure Tidy (x : System) : Prop where
  keyed : x.store.Keyed
  notices : ∀ n ∈ x.buffer, n.kind.concernsStage
  timer : x.services.debouncer.Keyed
  queued : ∀ t ∈ x.queued, t.Named
  underway : ∀ t ∈ x.progress.stages, t.Named
  retries : x.agent.retries.entries = []
  busy : Busy x.activity
  calls : Calls x.progress

/-- Whether the commit of a stage is just begun. -/
def Begins (progress : Progress) (t : Stage) : Prop :=
  ∃ segment : List Stage, t ∈ segment ∧
    progress = .committing (segment.map fun t ↦ ⟨t, Commit.commitStage t⟩) []

/-- What was to be committed still is, unless the commit is just begun. -/
def Keeps (x y : System) : Prop :=
  ∀ t ∈ x.queued, (∃ u ∈ y.queued, u.same t) ∨ Begins y.progress t

section Systems

variable {x y : System} {t : Stage}

theorem mem_queued : t ∈ x.queued ↔ t ∈ x.buffer.map Notice.stage ∨ t ∈ x.activity.stages ∨
    t ∈ x.services.debouncer.stages ∨ t ∈ x.channel.batches.flatten ∨ t ∈ x.segments.flatten := by
  simp only [System.queued, List.mem_append, or_assoc]

theorem mem_stages_commit {s : Stage} {job job' : Job (Except CommitFailure Unit)}
    {before after : List CommitTask} {ended : List Commit.Ended} :
    t ∈ (Progress.committing (before ++ ⟨s, job'⟩ :: after) ended).stages ↔
      t ∈ (Progress.committing (before ++ ⟨s, job⟩ :: after) ended).stages := by
  simp [Progress.stages]

/-- A commit that has ended still counts. -/
theorem mem_stages_join {s : Stage} {job : Job (Except CommitFailure Unit)}
    {result : Except CommitFailure Unit} {before after : List CommitTask}
    {ended : List Commit.Ended} :
    t ∈ (Progress.committing (before ++ after) (ended ++ [⟨s, result⟩])).stages ↔
      t ∈ (Progress.committing (before ++ ⟨s, job⟩ :: after) ended).stages := by
  simp only [Progress.stages, List.map_append, List.map_cons, List.map_nil, List.mem_append,
    List.mem_cons, List.not_mem_nil]
  grind

theorem keeps_of_subset (h : ∀ t ∈ x.queued, t ∈ y.queued) : Keeps x y :=
  fun t ht ↦ .inl ⟨t, h t ht, Stage.same_refl t⟩

namespace Tidy

theorem waiting (h : Tidy x) : ∀ t ∈ x.services.debouncer.stages, t.Named :=
  fun t ht ↦ h.queued t (mem_queued.2 (.inr (.inr (.inl ht))))

/-- The committer goes on. -/
theorem passes (h : Tidy x) {services : Services} {progress : Progress}
    (hp : Passes x.services services) (hnamed : ∀ t ∈ progress.stages, t.Named)
    (hcalls : Calls progress) :
    Tidy { x with services, progress } ∧ Keeps x { x with services, progress } := by
  have hbuffer : ({ x with services, progress } : System).buffer = x.buffer := by
    rw [System.buffer, hp.registry, System.buffer]
  refine ⟨⟨?_, hbuffer ▸ h.notices, hp.keyed, ?_, hnamed, h.retries, h.busy, hcalls⟩,
    fun t ht ↦ .inl ?_⟩
  · have hstore : ({ x with services, progress } : System).store = x.store := by
      rw [System.store, hp.registry, System.store]
    exact hstore ▸ h.keyed
  · intro t ht
    rw [mem_queued, hbuffer] at ht
    rcases ht with ht | ht | ht | ht
    · exact h.queued t (mem_queued.2 (.inl ht))
    · exact h.queued t (mem_queued.2 (.inr (.inl ht)))
    · exact hp.named t ht
    · exact h.queued t (mem_queued.2 (.inr (.inr (.inr ht))))
  · simp only [mem_queued, hbuffer] at ht ⊢
    rcases ht with ht | ht | ht | ht
    · exact ⟨t, .inl ht, Stage.same_refl t⟩
    · exact ⟨t, .inr (.inl ht), Stage.same_refl t⟩
    · obtain ⟨u, hu, hut⟩ := hp.waits t ht
      exact ⟨u, .inr (.inr (.inl hu)), hut⟩
    · exact ⟨t, .inr (.inr (.inr ht)), Stage.same_refl t⟩

theorem resumeEnding (h : Tidy x) {services : Services} {segment : List Stage} {job : Job Unit}
    (hp : Passes x.services services) (hnamed : ∀ t ∈ segment, t.Named) (hjob : job.Only OfEnd) :
    Tidy (({ x with services } : System).resumeEnding segment job) ∧
      Keeps x (({ x with services } : System).resumeEnding segment job) := by
  cases job with
  | done _ => exact h.passes hp (by simp [Progress.stages]) trivial
  | call c next => exact h.passes hp hnamed hjob

section Task

variable {s : Stage} {job : Job (Except CommitFailure Unit)} {before after : List CommitTask}
  {ended : List Commit.Ended}
  (hp : x.progress = .committing (before ++ ⟨s, job⟩ :: after) ended)
include hp

theorem task_only (h : Tidy x) : job.Only (OfStage s) := by
  have hcalls := h.calls
  rw [hp] at hcalls
  exact hcalls ⟨s, job⟩ (by simp)

theorem task_named (h : Tidy x) : s.Named :=
  h.underway s (by simp [hp, Progress.stages])

/-- A commit goes on. -/
theorem commit (h : Tidy x) {services : Services} (hservices : Passes x.services services)
    {job' : Job (Except CommitFailure Unit)} (hjob : job'.Only (OfStage s)) :
    let y : System :=
      { x with services, progress := .committing (before ++ ⟨s, job'⟩ :: after) ended }
    Tidy y ∧ Keeps x y := by
  have hcalls := h.calls
  have hnamed := h.underway
  rw [hp] at hcalls hnamed
  refine h.passes hservices (fun t ht ↦ hnamed t (mem_stages_commit.1 ht)) ?_
  · simp only [Calls, List.forall_mem_append, List.forall_mem_cons] at hcalls ⊢
    exact ⟨hcalls.1, hjob, hcalls.2.2⟩

/-- A commit ends. -/
theorem join (h : Tidy x) {services : Services} (hservices : Passes x.services services)
    (result : Except CommitFailure Unit) :
    let y : System :=
      { x with services, progress := .committing (before ++ after) (ended ++ [⟨s, result⟩]) }
    Tidy y ∧ Keeps x y := by
  have hcalls := h.calls
  have hnamed := h.underway
  rw [hp] at hcalls hnamed
  refine h.passes hservices (fun t ht ↦ hnamed t (mem_stages_join.1 ht)) ?_
  · simp only [Calls, List.forall_mem_append, List.forall_mem_cons] at hcalls ⊢
    exact ⟨hcalls.1, hcalls.2.2⟩

end Task

/-! ### The registry -/

/-- A change of the registry concerns the stage of its notice only. -/
theorem exists_notice_of_change (h : Tidy x) {r : Registry}
    (hc : x.services.registry.Change rules x.watch r) :
    r = x.services.registry ∨ ∃ n : Notice, n.kind.concernsStage ∧ n.stage.Named ∧
      r.buffer x.watch = x.buffer ++ [n] ∧ r.store.Keyed ∧
      ∀ s : Stage, s.Plain → ¬ n.stage.same s → r.store.content s = x.store.content s := by
  cases hc with
  | @put resource hp hr =>
    refine .inr ⟨resource.notice, hp.1, hp.2, Registry.buffer_notify hr, h.keyed.put hp.2.plain, ?_⟩
    intro s hs hne
    exact h.keyed.content_put hp.2.plain hs hne
  | @remove kind key hp hr =>
    rw [Registry.remove]
    split
    · exact .inl rfl
    · refine .inr ⟨_, hp.1, hp.2, Registry.buffer_notify hr, h.keyed.remove kind key, ?_⟩
      intro s hs hne
      exact h.keyed.content_remove hp.2.plain hs hne

theorem change (h : Tidy x) {r : Registry} (hc : x.services.registry.Change rules x.watch r) :
    Tidy (x.withRegistry r) ∧ Keeps x (x.withRegistry r) := by
  rcases h.exists_notice_of_change hc with rfl | ⟨n, hn, hs, hbuffer, hkeyed, -⟩
  · exact ⟨h, keeps_of_subset fun t ht ↦ ht⟩
  · have hbuffer : (x.withRegistry r).buffer = x.buffer ++ [n] := hbuffer
    have hqueued (t : Stage) : t ∈ (x.withRegistry r).queued ↔ t = n.stage ∨ t ∈ x.queued := by
      rw [mem_queued, mem_queued, hbuffer, List.map_append, List.mem_append, List.map_singleton,
        List.mem_singleton, or_assoc, or_left_comm]
      exact Iff.rfl
    refine ⟨⟨hkeyed, ?_, h.timer, ?_, h.underway, h.retries, h.busy, h.calls⟩,
      keeps_of_subset fun t ht ↦ (hqueued t).2 (.inr ht)⟩
    · rw [hbuffer]
      simpa [or_imp, forall_and] using ⟨h.notices, hn⟩
    · intro t ht
      rcases (hqueued t).1 ht with rfl | ht
      · exact hs
      · exact h.queued t ht

/-! ### The agent -/

/-- The agent receives a notice. -/
theorem hear (h : Tidy x) (hi : x.activity = .idle) {n : Notice} {rest : Watch}
    (hn : x.services.registry.receive x.watch = .notice n rest) :
    let y := (x.withRegistry (x.services.registry.setWatch x.watch rest)).handle n
    Tidy y ∧ Keeps x y := by
  have hbuffer := Registry.buffer_receive hn
  have hnotices := h.notices
  rw [System.buffer, hbuffer, List.forall_mem_cons] at hnotices
  have hnamed : n.stage.Named := by
    refine h.queued n.stage (mem_queued.2 (.inl ?_))
    rw [System.buffer, hbuffer]
    exact List.mem_cons_self
  have hears := hears_handle hnotices.1 hnamed x.maxRetries h.retries
  have hqueued (job : Job (Agent.Handled × AgentState)) (t : Stage) :
      t ∈ ({ x.withRegistry (x.services.registry.setWatch x.watch rest) with
        activity := .working (some n) job } : System).queued ↔ t ∈ x.queued := by
    simp only [mem_queued, System.buffer, System.withRegistry, hbuffer, hi, Activity.stages,
      List.map_cons, List.mem_cons, List.not_mem_nil, or_false, false_or]
    rw [or_left_comm, ← or_assoc]
  intro y
  have hy : y = { x.withRegistry (x.services.registry.setWatch x.watch rest) with
      activity := .working (some n) ((Agent.handle x.maxRetries n).run x.agent) } := hears.resume _
  rw [hy]
  refine ⟨⟨h.keyed, hnotices.2, h.timer, fun t ht ↦ h.queued t ((hqueued _ t).1 ht), h.underway,
    h.retries, hears, h.calls⟩, keeps_of_subset fun t ht ↦ (hqueued _ t).2 ht⟩

theorem tick (h : Tidy x) (hi : x.activity = .idle) : Tidy x.tick ∧ Keeps x x.tick := by
  have hticks := ticks_tick h.retries
  have hqueued (job : Job (Agent.Handled × AgentState)) (t : Stage) :
      t ∈ ({ x with activity := .working none job } : System).queued ↔ t ∈ x.queued := by
    simp only [mem_queued, System.buffer, hi, Activity.stages]
  rw [System.tick, hticks.resume]
  exact ⟨⟨h.keyed, h.notices, h.timer, fun t ht ↦ h.queued t ((hqueued _ t).1 ht), h.underway,
    h.retries, hticks, h.calls⟩, keeps_of_subset fun t ht ↦ (hqueued _ t).2 ht⟩

/-- The agent has taken note of its notice. -/
theorem note (h : Tidy x) {n : Notice} {job job' : Job (Agent.Handled × AgentState)}
    (ha : x.activity = .working (some n) job) (hears : Hears n job') (m : Measure) :
    let y : System := { x with
      services := (x.services.answer (.note m)).2, activity := .working (some n) job' }
    Tidy y ∧ Keeps x y := by
  have hqueued (t : Stage) : t ∈ ({ x with
      services := (x.services.answer (.note m)).2, activity := .working (some n) job' } :
        System).queued ↔ t ∈ x.queued := by
    rw [mem_queued, mem_queued, ha]
    exact Iff.rfl
  exact ⟨⟨h.keyed, h.notices, h.timer, fun t ht ↦ h.queued t ((hqueued t).1 ht), h.underway,
    h.retries, hears, h.calls⟩, keeps_of_subset fun t ht ↦ (hqueued t).2 ht⟩

/-- The agent makes the stage of its notice wait. -/
theorem postpone (h : Tidy x) {n : Notice} {job : Job (Agent.Handled × AgentState)}
    (ha : x.activity = .working (some n) job) {a : AgentState} (hretries : a.retries.entries = []) :
    let y : System :=
      { x with services := x.services.postpone n.stage, agent := a, activity := .sending [] }
    Tidy y ∧ Keeps x y := by
  have hbusy : x.activity.stages = [n.stage] := by rw [ha, Activity.stages]
  have hnamed : n.stage.Named :=
    h.queued n.stage (mem_queued.2 (.inr (.inl (hbusy ▸ List.mem_singleton_self _))))
  have hpasses := passes_postpone h.timer h.waiting hnamed
  intro y
  refine ⟨⟨h.keyed, h.notices, hpasses.keyed, ?_, h.underway, hretries, trivial, h.calls⟩,
    fun t ht ↦ .inl ?_⟩
  · intro t ht
    rcases mem_queued.1 ht with ht | ht | ht | ht
    · exact h.queued t (mem_queued.2 (.inl ht))
    · cases ht
    · exact hpasses.named t ht
    · exact h.queued t (mem_queued.2 (.inr (.inr (.inr ht))))
  · rcases mem_queued.1 ht with ht | ht | ht | ht
    · exact ⟨t, mem_queued.2 (.inl ht), Stage.same_refl t⟩
    · rw [hbusy, List.mem_singleton] at ht
      subst ht
      exact ⟨_, mem_queued.2 (.inr (.inr (.inl Debouncer.mem_stages_update_self))),
        Stage.same_refl _⟩
    · obtain ⟨u, hu, hut⟩ := hpasses.waits t ht
      exact ⟨u, mem_queued.2 (.inr (.inr (.inl hu))), hut⟩
    · exact ⟨t, mem_queued.2 (.inr (.inr (.inr ht))), Stage.same_refl t⟩

/-- The stages that are due leave. -/
theorem drain (h : Tidy x) {job : Job (Agent.Handled × AgentState)}
    (ha : x.activity = .working none job) {a : AgentState} (hretries : a.retries.entries = []) :
    let y : System :=
      { x with services := x.services.drain.2, agent := a, activity := .sending x.services.drain.1 }
    Tidy y ∧ Keeps x y := by
  have hqueued (t : Stage) : t ∈ ({ x with
      services := x.services.drain.2, agent := a, activity := .sending x.services.drain.1 } :
        System).queued ↔ t ∈ x.queued := by
    have hdrain : t ∈ x.services.debouncer.stages ↔
        t ∈ (x.services.debouncer.drain x.services.now).1 ∨
          t ∈ (x.services.debouncer.drain x.services.now).2.stages := Debouncer.mem_stages_iff_drain
    simp only [mem_queued, System.buffer, ha, Activity.stages, hdrain, List.not_mem_nil, false_or,
      or_assoc]
    exact Iff.rfl
  exact ⟨⟨h.keyed, h.notices, h.timer.drain, fun t ht ↦ h.queued t ((hqueued t).1 ht), h.underway,
    hretries, trivial, h.calls⟩, keeps_of_subset fun t ht ↦ (hqueued t).2 ht⟩

theorem send (h : Tidy x) {batch due : List Stage} {channel : CommitChannel}
    (ha : x.activity = .sending due) (hb : batch.Perm due)
    (hc : x.channel.send batch = .sent channel) :
    let y : System := { x with activity := .idle, channel }
    Tidy y ∧ Keeps x y := by
  have hchannel := flatten_send hc
  have hqueued (t : Stage) :
      t ∈ ({ x with activity := .idle, channel } : System).queued ↔ t ∈ x.queued := by
    simp only [mem_queued, System.buffer, ha, Activity.stages, hchannel, List.mem_append,
      hb.mem_iff, List.not_mem_nil, false_or]
    grind
  exact ⟨⟨h.keyed, h.notices, h.timer, fun t ht ↦ h.queued t ((hqueued t).1 ht), h.underway,
    h.retries, trivial, h.calls⟩, keeps_of_subset fun t ht ↦ (hqueued t).2 ht⟩

/-! ### The committer -/

theorem receive (h : Tidy x) {batch : List Stage} {channel : CommitChannel} (hs : x.segments = [])
    (hc : x.channel.receive? = some (batch, channel)) :
    let y : System := { x with channel, segments := Commit.segments x.segmentSize batch }
    Tidy y ∧ Keeps x y := by
  have hchannel := flatten_receive? hc
  have hqueued (t : Stage) : t ∈ ({ x with
      channel, segments := Commit.segments x.segmentSize batch } : System).queued ↔
        t ∈ x.queued := by
    simp only [mem_queued, System.buffer, hs, hchannel, Commit.flatten_segments, List.mem_append,
      List.flatten_nil, List.not_mem_nil, or_false]
    grind
  exact ⟨⟨h.keyed, h.notices, h.timer, fun t ht ↦ h.queued t ((hqueued t).1 ht), h.underway,
    h.retries, h.busy, h.calls⟩, keeps_of_subset fun t ht ↦ (hqueued t).2 ht⟩

theorem committable_eq_self {segment : List Stage} (h : ∀ t ∈ segment, t.Named) :
    Commit.committable segment = segment := by
  refine List.filter_eq_self.2 ?_
  intro t ht
  rw [(h t ht).single]
  rfl

/-- All stages of a segment are committed, since none stands for all stages. -/
theorem beginSegment_eq {segment : List Stage} (h : ∀ t ∈ segment, t.Named) (x : System) :
    x.beginSegment segment =
      if segment = [] then x
      else
        { x with progress := .committing (segment.map fun t ↦ ⟨t, Commit.commitStage t⟩) [] } := by
  rw [System.beginSegment, committable_eq_self h]
  cases segment <;> rfl

theorem begin (h : Tidy x) {segment : List Stage} {segments : List (List Stage)}
    (hs : x.segments = segment :: segments) :
    let y := ({ x with segments } : System).beginSegment segment
    Tidy y ∧ Keeps x y := by
  have hqueued (t : Stage) (progress : Progress) :
      t ∈ x.queued ↔ t ∈ segment ∨ t ∈ ({ x with segments, progress } : System).queued := by
    simp only [mem_queued, System.buffer, hs, List.flatten_cons, List.mem_append]
    grind
  have hnamed : ∀ t ∈ segment, t.Named :=
    fun t ht ↦ h.queued t ((hqueued t x.progress).2 (.inl ht))
  show Tidy (({ x with segments } : System).beginSegment segment) ∧
    Keeps x (({ x with segments } : System).beginSegment segment)
  rw [beginSegment_eq hnamed]
  split
  · next hnil =>
    subst hnil
    refine ⟨⟨h.keyed, h.notices, h.timer, ?_, h.underway, h.retries, h.busy, h.calls⟩,
      keeps_of_subset ?_⟩
    · intro t ht
      exact h.queued t ((hqueued t x.progress).2 (.inr ht))
    · intro t ht
      exact ((hqueued t x.progress).1 ht).resolve_left nofun
  · have hstages : (Progress.committing (segment.map fun t ↦ ⟨t, Commit.commitStage t⟩) []).stages =
        segment := by
      simp [Progress.stages, Function.comp_def]
    refine ⟨⟨h.keyed, h.notices, h.timer, ?_, ?_, h.retries, h.busy, ?_⟩, ?_⟩
    · intro t ht
      exact h.queued t ((hqueued t _).2 (.inr ht))
    · rwa [hstages]
    · intro task htask
      obtain ⟨t, -, rfl⟩ := List.mem_map.1 htask
      exact commitStage_only t
    · intro t ht
      rcases (hqueued t _).1 ht with ht | ht
      · exact .inr ⟨segment, ht, rfl⟩
      · exact .inl ⟨t, ht, Stage.same_refl t⟩

/-! ### All steps -/

/-- Every step keeps a system tidy, and forgets no stage. -/
theorem step (h : Tidy x) (hstep : x.Step rules y) : Tidy y ∧ Keeps x y := by
  have hrefl : Passes x.services x.services := Passes.refl h.timer h.waiting
  cases hstep with
  | change hc => exact h.change hc
  | pass now faults strictNames crashing hnow =>
    exact h.passes ⟨rfl, hrefl.keyed, hrefl.named, hrefl.waits⟩ h.underway h.calls
  | hear hi hn => exact h.hear hi hn
  | retry hi hn =>
    obtain ⟨he, -⟩ := hn
    rw [h.retries] at he
    cases he
  | tick hi => exact h.tick hi
  | @work n? β c next ha hc =>
    have hbusy := h.busy
    rw [ha] at hbusy
    cases n? with
    | some n =>
      obtain ⟨a, hretries, hjob | hjob⟩ := hbusy
      · cases hjob
        have hears : Hears n (.call (.postpone n.stage) fun _ ↦ .done (.batch [], a)) :=
          ⟨a, hretries, .inr rfl⟩
        rw [hears.resume]
        exact h.note ha hears _
      · cases hjob
        exact h.postpone ha hretries
    | none =>
      obtain ⟨a, next', hretries, hjob, hnext⟩ := hbusy
      cases hjob
      have hdue : ∀ t ∈ x.services.drain.1, t.isAll = false := fun t ht ↦
        (h.waiting t (Debouncer.mem_stages_iff_drain.2 (.inl ht))).single
      rw [Services.answer, hnext _ hdue]
      exact h.drain ha hretries
  | send ha hb hc => exact h.send ha hb hc
  | receive hp hs hc => exact h.receive hs hc
  | begin hp hs => exact h.begin hs
  | commit hp =>
    have honly := h.task_only hp
    exact h.commit hp (passes_answer h.timer h.waiting (honly.1.harmless (h.task_named hp)))
      (honly.2 _)
  | crash hp => exact h.commit hp hrefl trivial
  | @join s result before after ended hp =>
    have hs := h.task_named hp
    exact h.join hp (passes_run h.timer h.waiting
      ((join_only s result).mono fun c hc ↦ hc.harmless hs)) result
  | finish hp =>
    have hnamed := h.underway
    rw [hp] at hnamed
    exact h.resumeEnding hrefl hnamed
      (endSegment_only fun e he ↦ hnamed e.stage (List.mem_map_of_mem he))
  | conclude hp =>
    have hcalls := h.calls
    have hnamed := h.underway
    rw [hp] at hcalls hnamed
    exact h.resumeEnding (passes_answer h.timer h.waiting hcalls.1.harmless) hnamed (hcalls.2 _)

theorem run (h : Tidy x) (hrun : x.Run rules y) : Tidy y := by
  induction hrun with
  | refl => exact h
  | tail _ hstep ih => exact (ih.step hstep).1

end Tidy

end Systems

end Publishing

end StageRelay
