import StageRelay.Proofs.Batch.Segment

/-!
# Commits in a fixed environment

What becomes of a stage while nothing around its commit changes: the registry answers the same
question in the same way, and it is settled how each conversion and each publication goes. Then the
calls of the commit, however far it got, are the beginning of one run, and it ends in one way, which
depends on nothing but its own stage.
-/

namespace StageRelay

/-- What a call publishes, and for which gateway and stage. -/
def Answered.sync? : Answered → Option (String × String × Configuration)
  | ⟨.sync gateway stage c, _, _⟩ => some (gateway, stage, c)
  | _ => none

/-- A host without a state. -/
def Host.fixed (answer : {β : Type} → Call β → β) : Host Unit where
  answer c u := (answer c, u)

namespace Job

variable {α : Type} {j j' j'' : Job α} {calls calls' : List Answered}
  {answer answer' : {β : Type} → Call β → β}

/-! ## Executions -/

theorem Reaches.trans (h : j.Reaches calls j') (h' : j'.Reaches calls' j'') :
    j.Reaches (calls ++ calls') j'' := by
  induction h with
  | refl => exact h'
  | call _ ih => exact .call (ih h')

/-- Nothing but the answers tells executions apart. -/
theorem Reaches.eq_run {a : α} (h : j.Reaches calls (.done a))
    (hcalls : ∀ x ∈ calls, x.answer = answer x.call) : a = (j.run (.fixed answer) ()).1 := by
  generalize hdone : Job.done a = last at h
  induction h with
  | refl j =>
    subst hdone
    rfl
  | @call _ c next b time calls j h ih =>
    obtain ⟨hb, hrest⟩ := List.forall_mem_cons.1 hcalls
    rw [show b = answer c from hb] at ih
    exact ih hrest hdone

theorem answer_callsAmong (j : Job α) (answer : {β : Type} → Call β → β) (clock : Unit → Nat) :
    ∀ x ∈ j.callsAmong (.fixed answer) clock (), x.answer = answer x.call := by
  induction j with
  | done a => exact List.forall_mem_nil _
  | call c next ih => exact List.forall_mem_cons.2 ⟨rfl, ih _⟩

theorem run_congr {p : {β : Type} → Call β → Prop} (hj : j.Only p)
    (h : ∀ {β : Type} (c : Call β), p c → answer c = answer' c) :
    (j.run (.fixed answer) ()).1 = (j.run (.fixed answer') ()).1 := by
  induction j with
  | done a => rfl
  | call c next ih =>
    show ((next (answer c)).run (.fixed answer) ()).1 = ((next (answer' c)).run (.fixed answer') ()).1
    rw [h c hj.1]
    exact ih _ (hj.2 _)

end Job

namespace Batch

open Commit

/-! ## Environments -/

/-- What surrounds a committer and does not change. A publication without a result crashes. -/
structure Environment where
  get : Kind → ResourceKey → Except RegistryError Resource
  list : Kind → Stage → Except RegistryError (List Resource)
  convert : Stage → StageResources → Converted
  sync : String → String → Configuration → Option (Except SyncError Unit)

namespace Environment

variable {env env' : Environment} {s : Stage} {calls : List Answered}

/-- The answer to a call. Flushes succeed; commits make no calls that are answered by default. -/
def answer (env : Environment) : {β : Type} → Call β → β
  | _, .get kind key => env.get kind key
  | _, .list kind s => env.list kind s
  | _, .stages => .ok []
  | _, .watch => .ok 0
  | _, .convert s rs => env.convert s rs
  | _, .sync gateway stage c => (env.sync gateway stage c).getD (.ok ())
  | _, .flush => .ok ()
  | _, .prune _ => .ok ()
  | _, .report _ _ => ()
  | _, .postpone _ => ()
  | _, .drain => []
  | _, .clock => 0
  | _, .note _ => ()

/-- The configuration that a stage is to be published with, or why there is none. -/
def planned (env : Environment) (s : Stage) : Except CommitFailure Configuration :=
  ((toPublish s).run (.fixed env.answer) ()).1.map Prod.fst

/-- The publication that the commit of a stage attempts. -/
def attempted (env : Environment) (s : Stage) : List (String × String × Configuration) :=
  match env.planned s with
  | .ok c => [(s.gateway, s.name, c)]
  | .error _ => []

/-- Whether an attempt comes to an end, be it a good one or a bad one. -/
def Ends (env : Environment) (x : String × String × Configuration) : Bool :=
  (env.sync x.1 x.2.1 x.2.2).isSome

/-- The publication of a stage, unless it crashes. -/
def published (env : Environment) (s : Stage) : List (String × String × Configuration) :=
  (env.attempted s).filter env.Ends

/-- How the commit of a stage ends. -/
def verdict (env : Environment) (s : Stage) : Except CommitFailure Unit :=
  match env.planned s with
  | .error e => .error e
  | .ok c =>
    match env.sync s.gateway s.name c with
    | none => .error .crashed
    | some (.error e) => .error (.error (.sync e))
    | some (.ok ()) => .ok ()

theorem attempted_eq_or (env : Environment) (s : Stage) :
    env.attempted s = [] ∨ ∃ c, env.attempted s = [(s.gateway, s.name, c)] := by
  rw [attempted]
  cases env.planned s with
  | error e => exact .inl rfl
  | ok c => exact .inr ⟨c, rfl⟩

theorem names_of_mem_published {x : String × String × Configuration} (h : x ∈ env.published s) :
    x.1 = s.gateway ∧ x.2.1 = s.name := by
  have hmem := (List.mem_filter.1 h).1
  rcases env.attempted_eq_or s with hnone | ⟨c, hone⟩
  · rw [hnone] at hmem
    cases hmem
  · rw [hone] at hmem
    obtain rfl := List.mem_singleton.1 hmem
    exact ⟨rfl, rfl⟩

theorem length_published_le (env : Environment) (s : Stage) : (env.published s).length ≤ 1 := by
  refine Nat.le_trans (List.length_filter_le _ _) ?_
  rcases env.attempted_eq_or s with h | ⟨c, h⟩ <;> simp [h]

/-- Whether a call was answered as the environment does. -/
structure Answers (env : Environment) (a : Answered) : Prop where
  answer : a.answer = env.answer a.call
  ends : ∀ x, a.sync? = some x → env.Ends x

/-! ## Single commits -/

theorem filterMap_sync?_of_reads (h : ∀ a ∈ calls, ReadsOf s a.call) :
    calls.filterMap Answered.sync? = [] := by
  rw [List.filterMap_eq_nil_iff]
  rintro ⟨c, b, time⟩ ha
  cases c <;> first | rfl | exact (h _ ha).elim

theorem fail_of_reaches {e : CommitError} {r : Except CommitFailure Unit}
    (h : (fail s e).Reaches calls (.done r)) :
    calls.filterMap Answered.sync? = [] ∧ r = .error (.error e) := by
  have hfail : (fail s e).wp Job.answered
      (fun r calls ↦ calls.filterMap Answered.sync? = [] ∧ r = .error (.error e)) [] :=
    fun _ _ _ _ ↦ ⟨rfl, rfl⟩
  exact h.of_wp hfail

/-- The commit of a stage that runs to its end makes its attempt. -/
theorem commit_of_reaches {r : Except CommitFailure Unit}
    (h : (commitStage s).Reaches calls (.done r))
    (hcalls : ∀ x ∈ calls, x.answer = env.answer x.call) :
    calls.filterMap Answered.sync? = env.attempted s ∧
      r = match env.planned s with
        | .error e => .error e
        | .ok c =>
          ((env.sync s.gateway s.name c).getD (.ok ())).mapError fun e ↦ .error (.sync e) := by
  rw [commitStage, Job.bind_eq] at h
  obtain ⟨built, rest, p, rfl, hbuilt, hrest⟩ := h.of_bind
  obtain ⟨hbuilds, hends⟩ := List.forall_mem_append.1 hcalls
  have hnone := filterMap_sync?_of_reads ((toPublish_own s).of_reaches hbuilt).1
  have hplanned : env.planned s = p.map Prod.fst := by rw [planned, ← hbuilt.eq_run hbuilds]
  rw [List.filterMap_append, hnone, List.nil_append, attempted, hplanned]
  rcases p with (e | -) | ⟨c, outcome⟩
  · exact fail_of_reaches hrest
  · cases hrest
    exact ⟨rfl, rfl⟩
  · cases hrest with
    | @call _ _ _ b time calls _ hrest =>
      obtain ⟨hb, -⟩ := List.forall_mem_cons.1 hends
      have hafter : calls.filterMap Answered.sync? = [] ∧
          r = b.mapError fun e ↦ .error (.sync e) := by
        rcases b with e | ⟨⟩
        · exact fail_of_reaches hrest
        · cases hrest with
          | call hrest =>
            cases hrest
            exact ⟨rfl, rfl⟩
      obtain ⟨hsyncs, rfl⟩ := hafter
      have hcons : (⟨.sync s.gateway s.name c, b, time⟩ :: calls : List Answered).filterMap
          Answered.sync? = (s.gateway, s.name, c) :: calls.filterMap Answered.sync? := rfl
      rw [hcons, hsyncs, show b = _ from hb]
      exact ⟨rfl, rfl⟩

/-- Whatever a commit has called so far, it has attempted no other publication. -/
theorem attempts_of_reaches {job : Job (Except CommitFailure Unit)}
    (h : (commitStage s).Reaches calls job) (hcalls : ∀ x ∈ calls, x.answer = env.answer x.call) :
    calls.filterMap Answered.sync? <+: env.attempted s := by
  have hfull := h.trans (job.reaches_run (.fixed env.answer) (fun _ ↦ 0) ())
  have hrest := job.answer_callsAmong env.answer fun _ ↦ 0
  rw [← (commit_of_reaches hfull (List.forall_mem_append.2 ⟨hcalls, hrest⟩)).1,
    List.filterMap_append]
  exact List.prefix_append _ _

theorem published_of_crashed (h : env.verdict s = .error .crashed) : env.published s = [] := by
  rw [published, attempted]
  rw [verdict] at h
  cases hplanned : env.planned s with
  | error e => rfl
  | ok c =>
    rw [hplanned] at h
    cases hsync : env.sync s.gateway s.name c with
    | none => simp [Ends, hsync]
    | some b => rcases b with e | ⟨⟩ <;> simp [hsync] at h

theorem ends_of_not_crashed (h : env.verdict s ≠ .error .crashed) :
    ∀ x ∈ env.attempted s, env.Ends x := by
  rw [verdict] at h
  rw [attempted]
  cases hplanned : env.planned s with
  | error e => exact List.forall_mem_nil _
  | ok c =>
    refine List.forall_mem_singleton.2 ?_
    rw [hplanned] at h
    cases hsync : env.sync s.gateway s.name c with
    | none => simp [hsync] at h
    | some b => simp [Ends, hsync]

theorem verdict_of_ends (h : ∀ x ∈ env.attempted s, env.Ends x) : env.verdict s =
    match env.planned s with
    | .error e => .error e
    | .ok c =>
      ((env.sync s.gateway s.name c).getD (.ok ())).mapError fun e ↦ .error (.sync e) := by
  rw [attempted] at h
  rw [verdict]
  cases hplanned : env.planned s with
  | error e => rfl
  | ok c =>
    rw [hplanned] at h
    have hends : (env.sync s.gateway s.name c).isSome := h _ (List.mem_singleton_self _)
    cases hsync : env.sync s.gateway s.name c with
    | none => simp [hsync] at hends
    | some b =>
      simp only [hsync]
      rcases b with e | ⟨⟩
      · rfl
      · rfl

/-- The commit of a stage publishes what the environment lets it publish, and ends as the environment
has it end, if it crashes for no other reason. -/
theorem commit_of_went {r : Except CommitFailure Unit} (h : Went s calls (.done r))
    (hcalls : ∀ x ∈ calls, env.Answers x)
    (hcrash : r = .error .crashed → env.verdict s = .error .crashed) :
    calls.filterMap Answered.sync? = env.published s ∧ r = env.verdict s := by
  have hanswers : ∀ x ∈ calls, x.answer = env.answer x.call := fun x hx ↦ (hcalls x hx).answer
  have hends : ∀ x ∈ calls.filterMap Answered.sync?, env.Ends x := by
    intro x hx
    obtain ⟨a, ha, hsync⟩ := List.mem_filterMap.1 hx
    exact (hcalls a ha).ends x hsync
  rcases h with hreaches | ⟨hcrashed, job, hreaches⟩
  · obtain ⟨hsyncs, rfl⟩ := commit_of_reaches hreaches hanswers
    refine ⟨?_, (verdict_of_ends (hsyncs ▸ hends)).symm⟩
    rw [published, ← hsyncs, List.filter_eq_self.2 hends]
  · obtain rfl := Job.done.inj hcrashed
    have hverdict := hcrash rfl
    refine ⟨?_, hverdict.symm⟩
    have hprefix := attempts_of_reaches hreaches hanswers
    rw [published_of_crashed hverdict, ← List.filter_eq_self.2 hends, ← List.sublist_nil]
    rw [← published_of_crashed hverdict]
    exact hprefix.sublist.filter env.Ends

/-! ## What a commit depends on -/

/-- Whether two environments treat a stage alike. -/
structure AgreeOn (env env' : Environment) (s : Stage) : Prop where
  get : env.get .stage ⟨s, s.name⟩ = env'.get .stage ⟨s, s.name⟩
  list : ∀ kind, env.list kind s = env'.list kind s
  convert : ∀ rs, env.convert s rs = env'.convert s rs
  sync : ∀ c, env.sync s.gateway s.name c = env'.sync s.gateway s.name c

namespace AgreeOn

theorem refl (env : Environment) (s : Stage) : AgreeOn env env s :=
  ⟨rfl, fun _ ↦ rfl, fun _ ↦ rfl, fun _ ↦ rfl⟩

theorem planned (h : AgreeOn env env' s) : env.planned s = env'.planned s := by
  rw [Environment.planned, Environment.planned]
  refine congrArg _ (Job.run_congr (toPublish_own s) ?_)
  intro β c hc
  cases c with
  | get kind key =>
    obtain ⟨rfl, rfl⟩ := hc
    exact h.get
  | list kind t =>
    obtain rfl : t = s := hc
    exact h.list kind
  | convert t rs =>
    obtain rfl : t = s := hc
    exact h.convert rs
  | _ => exact hc.elim

theorem published (h : AgreeOn env env' s) : env.published s = env'.published s := by
  rw [Environment.published, Environment.published, attempted, attempted, h.planned]
  cases env'.planned s with
  | error e => rfl
  | ok c =>
    refine List.filter_congr ?_
    rintro x (_ | ⟨_, ⟨⟩⟩)
    rw [Ends, Ends, h.sync]

theorem verdict (h : AgreeOn env env' s) : env.verdict s = env'.verdict s := by
  rw [Environment.verdict, Environment.verdict, h.planned]
  cases env'.planned s with
  | error e => rfl
  | ok c => simp only [h.sync]

end AgreeOn

end Environment

end Batch

end StageRelay
