import StageRelay.Proofs.Batch.InTurn
import StageRelay.Proofs.Batch.Parts

/-!
# Flushes and reports

A segment is flushed once, after all its commits and before the next segment is begun. Its outcomes
are reported after that, so that no success is told of a configuration that was not flushed.
-/

namespace StageRelay

namespace Batch

open Commit

/-- What happens in a segment that has stages to commit: its commits, the flush, and the rest. -/
structure Orderly (stages : List Stage) (commits : List Event) (flushed : Except SyncError Unit)
    (rest : List Answered) : Prop where
  /-- Every stage is committed once, -/
  once : ((endings commits).map fun e ↦ (e.2.stage, e.1)).Perm stages.zipIdx
  /-- to its end or to a crash, -/
  went : ∀ e ∈ endings commits, Went e.2.stage (callsOf e.1 commits) (.done e.2.result)
  /-- and makes no calls after that. -/
  follows : commits.Pairwise Follows
  /-- Nothing belongs to other segments. -/
  proper : ∀ x ∈ commits, OfCommits stages x
  /-- Before the flush stages are put back at most: nothing is flushed and nothing is reported. -/
  quiet : ∀ x ∈ effects (calls commits), ∃ s, x = .postponed s
  /-- After it stages are put back and reported: nothing is flushed again. -/
  silent : ∀ x ∈ effects rest, (∃ s, x = .postponed s) ∨ ∃ s status, x = .reported s status
  /-- Each commit is reported once, as a success if it succeeded and was flushed, unless its stage
  wants no report. -/
  told : ((effects rest).filterMap Effect.report?).Perm
    (((endings commits).filter fun e ↦ !e.2.stage.context.skipReport).map fun e ↦
      (e.2.stage, e.2.status flushed))

/-- What happens in a segment. One without a stage to commit is not flushed. -/
def Part.Orderly : Part → Prop
  | .skipped segment => committable segment = []
  | .conducted segment commits flushed _ rest =>
    committable segment ≠ [] ∧ Batch.Orderly (committable segment) commits flushed rest

variable {size : Nat} {batch : List Stage} {c : Committer} {trace : List Event}

theorem Part.Proper.orderly {p : Part} (h : p.Proper) : p.Orderly := by
  cases p with
  | skipped segment => exact h
  | conducted segment commits flushed time rest =>
    obtain ⟨hne, hway, hrest⟩ := h
    refine ⟨hne, hway.once, hway.gone, hway.follows, hway.proper,
      fun x hx ↦ hway.postponed_of_mem_effects hx, fun x hx ↦ ?_, ?_⟩
    · exact postponed_or_reported_of_mem_aftermath (hrest ▸ hx)
    · rw [hrest]
      have htold := reported_aftermath flushed ((endings commits).map Prod.snd)
      rwa [List.filter_map, List.map_map] at htold

/-- A batch can always be finished, and however its calls are answered and whatever crashes, its
segments follow one another: each is committed, then flushed, then reported. -/
theorem segments_flushed_and_reported (h : Run (.start size batch) trace c) :
    (∃ rest, Run c rest .finished) ∧ ∀ rest, Run c rest .finished → ∃ parts : List Part,
      parts.map Part.segment = Commit.segments size batch ∧
      trace ++ rest = parts.flatMap Part.events ∧ (∀ p ∈ parts, p.Orderly) ∧
      (parts.map Part.segment).flatten = batch ∧
      ∀ p ∈ parts, p.segment ≠ [] ∧ p.segment.length ≤ max 1 size := by
  refine ⟨exists_run_finished c, ?_⟩
  intro rest hrest
  obtain ⟨parts, hparts, htrace, hsegments⟩ := exists_parts (h.trans hrest)
  refine ⟨parts, hsegments, htrace, fun p hp ↦ (hparts p hp).orderly, ?_, fun p hp ↦ ?_⟩
  · rw [hsegments, flatten_segments]
  · exact mem_segments (hsegments ▸ List.mem_map_of_mem hp)

/-- A commit crashes before its first call: its segment is flushed all the same, and then the
failure is reported. The stage that stands for all stages has a segment of its own. -/
theorem crash_flushed_and_reported :
    let s : Stage := { gateway := "gateway", name := "stage" }
    let trace : List Event := [.begun [s], .ended 0 ⟨s, .error .crashed⟩,
      .asked ⟨.note (.committed .failed), (), 1⟩, .asked ⟨.postpone s.forRetry, (), 1⟩,
      .asked ⟨.flush, .ok (), 2⟩, .asked ⟨.note (.flushed true), (), 2⟩,
      .asked ⟨.report s (.failed "commit task panicked"), (), 3⟩, .begun [Stage.all]]
    Run (.start 1 [s, Stage.all]) trace .finished ∧
      ∃ parts : List Part, parts.map Part.segment = [[s], [Stage.all]] ∧
        trace = parts.flatMap Part.events ∧ ∀ p ∈ parts, p.Orderly := by
  intro s trace
  have hsegments : Commit.segments 1 [s, Stage.all] = [[s], [Stage.all]] := by
    simp [Commit.segments]
  have hbegin : Step ⟨[[s], [Stage.all]], .idle⟩ [.begun [s]]
      ⟨[[Stage.all]], .committing ([] ++ [⟨0, s, commitStage s⟩]) []⟩ :=
    .begin (show committable [s] ≠ [] by decide)
  have hcrash : Step ⟨[[Stage.all]], .committing ([] ++ [⟨0, s, commitStage s⟩]) []⟩ []
      ⟨[[Stage.all]], .committing ([] ++ [⟨0, s, .done (.error .crashed)⟩]) []⟩ := .crash
  have hjoin : (Commit.join s (.error .crashed)).Reaches
      [⟨.note (.committed .failed), (), 1⟩, ⟨.postpone s.forRetry, (), 1⟩]
      (.done ⟨s, .error .crashed⟩) := .call (.call (.refl _))
  have hend : (endSegment [⟨s, .error .crashed⟩]).Reaches [⟨.flush, .ok (), 2⟩,
      ⟨.note (.flushed true), (), 2⟩, ⟨.report s (.failed "commit task panicked"), (), 3⟩]
      (.done ()) := .call (.call (.call (.refl _)))
  have hskip : Step ⟨[[Stage.all]], .idle⟩ [.begun [Stage.all]] ⟨[], .idle⟩ := .skip (by decide)
  have hrun : Run (.start 1 [s, Stage.all]) trace .finished := by
    rw [Committer.start, hsegments]
    exact .head hbegin (.head hcrash (.head (.join hjoin) (.head .finish
      ((run_ending hend).trans (.head hskip (.refl _))))))
  obtain ⟨-, hparts⟩ := segments_flushed_and_reported hrun
  obtain ⟨parts, hsegment, htrace, horderly, -⟩ := hparts [] (.refl _)
  exact ⟨hrun, parts, hsegment.trans hsegments, (List.append_nil trace).symm.trans htrace, horderly⟩

end Batch

end StageRelay
