import StageRelay.Proofs.Batch.Segment
import StageRelay.Proofs.Interleaving.Undisturbed

/-!
# Commits in turn

Every committer can be brought to its end, and to commit the stages of a batch one after the other
is one way to do so.
-/

namespace StageRelay

namespace Batch

open Commit

variable {segments : List (List Stage)} {ended : List (Nat × Ended)} {i : Nat} {s : Stage}

/-! ## Runs of single jobs -/

/-- The first commit goes on alone. -/
theorem run_task {job job' : Job (Except CommitFailure Unit)} {calls : List Answered}
    (h : job.Reaches calls job') (after : List Task) :
    Run ⟨segments, .committing (⟨i, s, job⟩ :: after) ended⟩ (calls.map (.called i))
      ⟨segments, .committing (⟨i, s, job'⟩ :: after) ended⟩ := by
  induction h with
  | refl => exact .refl _
  | @call _ c next b time calls _ _ ih =>
    have hstep : Step ⟨segments, .committing ([] ++ ⟨i, s, .call c next⟩ :: after) ended⟩
        [.called i ⟨c, b, time⟩] ⟨segments, .committing ([] ++ ⟨i, s, next b⟩ :: after) ended⟩ :=
      .call b time
    exact .head hstep ih

theorem run_ending {job : Job Unit} {calls : List Answered} (h : job.Reaches calls (.done ())) :
    Run ⟨segments, .ending job⟩ (calls.map .asked) ⟨segments, .idle⟩ := by
  generalize hdone : Job.done () = last at h
  induction h with
  | refl =>
    subst hdone
    exact .head .rest (.refl _)
  | @call _ c next b time calls _ _ ih => exact .head (.conclude b time) (ih hdone)

/-- The first commit goes on alone until its end is noted. -/
theorem run_first {job : Job (Except CommitFailure Unit)} {r : Except CommitFailure Unit}
    {made noted : List Answered} {e : Ended} (h : job.Reaches made (.done r))
    (hj : (Commit.join s r).Reaches noted (.done e)) (after : List Task) :
    Run ⟨segments, .committing (⟨i, s, job⟩ :: after) ended⟩
      (made.map (.called i) ++ .ended i e :: noted.map .asked)
      ⟨segments, .committing after (ended ++ [(i, e)])⟩ := by
  have hstep : Step ⟨segments, .committing ([] ++ ⟨i, s, .done r⟩ :: after) ended⟩
      (.ended i e :: noted.map .asked) ⟨segments, .committing ([] ++ after) (ended ++ [(i, e)])⟩ :=
    .join hj
  exact .tail (run_task h after) hstep

/-! ## Ends -/

theorem exists_reaches_done {α : Type} (j : Job α) : ∃ calls a, j.Reaches calls (.done a) :=
  ⟨_, _, j.reaches_run Services.host Services.now {}⟩

theorem exists_run_committing (running : List Task) :
    ∃ trace, Run ⟨segments, .committing running ended⟩ trace ⟨segments, .idle⟩ := by
  induction running generalizing ended with
  | nil =>
    obtain ⟨calls, _, hcalls⟩ := exists_reaches_done (endSegment (ended.map Prod.snd))
    exact ⟨_, .head .finish (run_ending hcalls)⟩
  | cons t running ih =>
    obtain ⟨made, r, hmade⟩ := exists_reaches_done t.job
    obtain ⟨noted, e, hnoted⟩ := exists_reaches_done (Commit.join t.stage r)
    obtain ⟨trace, htrace⟩ := @ih (ended ++ [(t.number, e)])
    exact ⟨_, (run_first hmade hnoted running).trans htrace⟩

theorem exists_run_idle (progress : Progress) :
    ∃ trace, Run ⟨segments, progress⟩ trace ⟨segments, .idle⟩ := by
  cases progress with
  | idle => exact ⟨_, .refl _⟩
  | committing running ended => exact exists_run_committing running
  | ending job =>
    obtain ⟨calls, _, hcalls⟩ := exists_reaches_done job
    exact ⟨_, run_ending hcalls⟩

/-- Wherever a committer is, it can finish its batch. -/
theorem exists_run_finished (c : Committer) : ∃ trace, Run c trace .finished := by
  obtain ⟨segments, progress⟩ := c
  induction segments generalizing progress with
  | nil => exact exists_run_idle progress
  | cons segment segments ih =>
    obtain ⟨before, hbefore⟩ := exists_run_idle progress
    by_cases hempty : committable segment = []
    · obtain ⟨after, hafter⟩ := ih .idle
      exact ⟨_, hbefore.trans (.head (.skip hempty) hafter)⟩
    · obtain ⟨after, hafter⟩ := ih (.committing (tasks (committable segment)) [])
      exact ⟨_, hbefore.trans (.head (.begin hempty) hafter)⟩

/-! ## Among services -/

/-- What the calls of some events make of the stages that wait. -/
def replay (d : Debouncer) (trace : List Event) : Debouncer :=
  (calls trace).foldl Debouncer.after d

theorem replay_append (d : Debouncer) (trace trace' : List Event) :
    replay d (trace ++ trace') = replay (replay d trace) trace' := by
  rw [replay, calls_append, List.foldl_append]
  rfl

theorem debouncer_answer {β : Type} (c : Call β) (services : Services) :
    (services.answer c).2.debouncer =
      services.debouncer.after ⟨c, (services.answer c).1, services.now⟩ := by
  cases c with
  | watch =>
    simp only [Services.answer, Services.watch]
    split <;> rfl
  | sync gateway stage config =>
    simp only [Services.answer]
    split <;> rfl
  | flush =>
    simp only [Services.answer, Services.flush]
    split <;> rfl
  | prune existing =>
    simp only [Services.answer, Services.prune]
    split <;> rfl
  | _ => rfl

theorem debouncer_run {α : Type} (j : Job α) (services : Services) :
    (j.run Services.host services).2.debouncer =
      (j.callsAmong Services.host Services.now services).foldl Debouncer.after
        services.debouncer := by
  induction j generalizing services with
  | done a => rfl
  | call c next ih =>
    have hanswer : (Services.host.answer c services).2.debouncer =
        services.debouncer.after ⟨c, (Services.host.answer c services).1, services.now⟩ :=
      debouncer_answer c services
    rw [Job.run_call, Job.callsAmong, List.foldl_cons, ← hanswer]
    exact ih _ _

variable {stages : List Stage}

/-- The commits of some stages run one after the other. -/
theorem exists_run_inTurn (stages : List Stage) (n : Nat) (ended : List (Nat × Ended))
    (services : Services) : ∃ trace ended',
    Run ⟨segments, .committing ((stages.zipIdx n).map fun e ↦ ⟨e.2, e.1, commitStage e.1⟩) ended⟩
      trace ⟨segments, .committing [] ended'⟩ ∧
    ended'.map Prod.snd =
      ended.map Prod.snd ++ ((System.inTurn stages).run Services.host services).1 ∧
    ((System.inTurn stages).run Services.host services).2.debouncer =
      replay services.debouncer trace := by
  -- the first stage commits alone; the others follow with the next number
  induction stages generalizing n ended services with
  | nil => exact ⟨[], ended, .refl _, (List.append_nil _).symm, rfl⟩
  | cons s stages ih =>
    obtain ⟨⟨r, services'⟩, hcommit⟩ : ∃ x, (commitStage s).run Services.host services = x := ⟨_, rfl⟩
    obtain ⟨⟨e, services''⟩, hjoin⟩ : ∃ x, (Commit.join s r).run Services.host services' = x :=
      ⟨_, rfl⟩
    have hmade := (commitStage s).reaches_run Services.host Services.now services
    have hnoted := (Commit.join s r).reaches_run Services.host Services.now services'
    rw [hcommit] at hmade
    rw [hjoin] at hnoted
    obtain ⟨trace, ended', hrun, hended, hleft⟩ := ih (n + 1) (ended ++ [(n, e)]) services''
    have hcons : (System.inTurn (s :: stages)).run Services.host services =
        (e :: ((System.inTurn stages).run Services.host services'').1,
          ((System.inTurn stages).run Services.host services'').2) := by
      simp only [System.inTurn, List.mapM_cons, Job.bind_eq, Job.pure_eq, Job.run_bind,
        Job.run_done, hcommit, hjoin]
    refine ⟨_, ended', (run_first hmade hnoted _).trans hrun, ?_, ?_⟩
    · rw [hended, hcons, List.map_append, List.append_assoc]
      rfl
    · have hcommitted := debouncer_run (commitStage s) services
      have hjoined := debouncer_run (Commit.join s r) services'
      rw [hcommit] at hcommitted
      rw [hjoin] at hjoined
      rw [hcons, hleft, replay_append, hjoined, hcommitted]
      simp only [replay, calls_append, calls_map_called, calls_ended, calls_map_asked,
        List.foldl_append]

theorem exists_run_commitSegment (segment : List Stage) (segments : List (List Stage))
    (services : Services) : ∃ trace,
    Run ⟨segment :: segments, .idle⟩ trace ⟨segments, .idle⟩ ∧
      ((commitSegment segment).run Services.host services).2.debouncer =
        replay services.debouncer trace := by
  unfold commitSegment
  cases hstages : committable segment with
  | nil => exact ⟨[.begun segment], .head (.skip hstages) (.refl _), rfl⟩
  | cons s stages =>
    have hbegin : Step ⟨segment :: segments, .idle⟩ [.begun segment]
        ⟨segments, .committing (tasks (committable segment)) []⟩ :=
      .begin (hstages ▸ List.cons_ne_nil s stages)
    rw [hstages] at hbegin
    obtain ⟨trace, ended, hrun, hended, hleft⟩ :=
      exists_run_inTurn (s :: stages) 0 [] services
    obtain ⟨⟨all, services'⟩, hturn⟩ :
      ∃ x, (System.inTurn (s :: stages)).run Services.host services = x := ⟨_, rfl⟩
    rw [hturn] at hended hleft
    obtain rfl : ended.map Prod.snd = all := hended
    have hcalls := (endSegment (ended.map Prod.snd)).reaches_run Services.host Services.now services'
    have hend : Run ⟨segments, .committing [] ended⟩ _ ⟨segments, .idle⟩ :=
      .head .finish (run_ending hcalls)
    refine ⟨_, .head hbegin (hrun.trans hend), ?_⟩
    have hsegment : ((System.inTurn (s :: stages)).bind endSegment).run Services.host services =
        (endSegment (ended.map Prod.snd)).run Services.host services' := by
      rw [Job.run_bind, hturn]
    show (((System.inTurn (s :: stages)).bind endSegment).run Services.host services).2.debouncer = _
    rw [hsegment, debouncer_run, hleft]
    simp only [replay, calls_append, calls_begun, calls_map_asked, List.foldl_append,
      List.nil_append, List.singleton_append]

/-- To commit a batch, one stage after the other, is a run of a committer. -/
theorem exists_run_commitBatch (size : Nat) (batch : List Stage) (services : Services) : ∃ trace,
    Run (.start size batch) trace .finished ∧
      ((commitBatch size batch).run Services.host services).2.debouncer =
        replay services.debouncer trace := by
  rw [commitBatch, Committer.start]
  induction Commit.segments size batch generalizing services with
  | nil => exact ⟨[], .refl _, rfl⟩
  | cons segment segments ih =>
    obtain ⟨before, hbefore, hsegment⟩ := exists_run_commitSegment segment segments services
    obtain ⟨after, hafter, hleft⟩ := ih ((commitSegment segment).run Services.host services).2
    refine ⟨before ++ after, hbefore.trans hafter, ?_⟩
    rw [List.forM, Job.bind_eq, Job.run_bind, hleft, hsegment, replay_append]

end Batch

end StageRelay
