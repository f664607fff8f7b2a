import StageRelay.Proofs.Commit.Calls

/-!
# Committers

How a batch is committed, step by step. The commits of a segment run side by side: a step is a single
call of one of them, which may be answered in any way and at any time, and each may crash wherever it
is. A run is known by what happens in it.
-/

namespace StageRelay

namespace Batch

open Commit

/-! ## Steps -/

/-- What happens while a batch is committed. The stages that a segment commits are numbered. -/
inductive Event where
  | begun (segment : List Stage)
  /-- A commit makes a call. -/
  | called (number : Nat) (a : Answered)
  /-- The committer takes note of the end of a commit. -/
  | ended (number : Nat) (e : Ended)
  /-- The committer itself makes a call. -/
  | asked (a : Answered)

/-- A commit that runs; the job is what is left to do. -/
structure Task where
  number : Nat
  stage : Stage
  job : Job (Except CommitFailure Unit)

/-- How far the committer is with a segment. -/
inductive Progress where
  | idle
  | committing (running : List Task) (ended : List (Nat × Ended))
  /-- All commits have ended; the job is what is left to do. -/
  | ending (job : Job Unit)

/-- A committer at work on a batch, with the segments that it has yet to begin. -/
structure Committer where
  segments : List (List Stage)
  progress : Progress

namespace Committer

/-- A committer that has just taken a batch. -/
def start (size : Nat) (batch : List Stage) : Committer :=
  ⟨Commit.segments size batch, .idle⟩

/-- A committer that is done with its batch. -/
def finished : Committer := ⟨[], .idle⟩

end Committer

/-- The commits of some stages. -/
def tasks (stages : List Stage) : List Task :=
  stages.zipIdx.map fun e ↦ ⟨e.2, e.1, commitStage e.1⟩

/-- A step of a committer, and what happens in it. -/
inductive Step : Committer → List Event → Committer → Prop
  /-- A segment that has nothing to commit is over at once. -/
  | skip {segment : List Stage} {segments : List (List Stage)} (h : committable segment = []) :
    Step ⟨segment :: segments, .idle⟩ [.begun segment] ⟨segments, .idle⟩
  | begin {segment : List Stage} {segments : List (List Stage)} (h : committable segment ≠ []) :
    Step ⟨segment :: segments, .idle⟩ [.begun segment]
      ⟨segments, .committing (tasks (committable segment)) []⟩
  | call {segments : List (List Stage)} {before after : List Task} {ended : List (Nat × Ended)}
    {i : Nat} {s : Stage} {β : Type} {c : Call β} {next : β → Job (Except CommitFailure Unit)}
    (b : β) (time : Nat) :
    Step ⟨segments, .committing (before ++ ⟨i, s, .call c next⟩ :: after) ended⟩
      [.called i ⟨c, b, time⟩] ⟨segments, .committing (before ++ ⟨i, s, next b⟩ :: after) ended⟩
  | crash {segments : List (List Stage)} {before after : List Task} {ended : List (Nat × Ended)}
    {i : Nat} {s : Stage} {job : Job (Except CommitFailure Unit)} :
    Step ⟨segments, .committing (before ++ ⟨i, s, job⟩ :: after) ended⟩ []
      ⟨segments, .committing (before ++ ⟨i, s, .done (.error .crashed)⟩ :: after) ended⟩
  /-- The committer takes note of the end of a commit. What it calls then is at most one call that
  matters to others, so this is one step. -/
  | join {segments : List (List Stage)} {before after : List Task} {ended : List (Nat × Ended)}
    {i : Nat} {s : Stage} {r : Except CommitFailure Unit} {e : Ended} {calls : List Answered}
    (h : (Commit.join s r).Reaches calls (.done e)) :
    Step ⟨segments, .committing (before ++ ⟨i, s, .done r⟩ :: after) ended⟩
      (.ended i e :: calls.map .asked) ⟨segments, .committing (before ++ after) (ended ++ [(i, e)])⟩
  | finish {segments : List (List Stage)} {ended : List (Nat × Ended)} :
    Step ⟨segments, .committing [] ended⟩ [] ⟨segments, .ending (endSegment (ended.map Prod.snd))⟩
  | conclude {segments : List (List Stage)} {β : Type} {c : Call β} {next : β → Job Unit} (b : β)
    (time : Nat) :
    Step ⟨segments, .ending (.call c next)⟩ [.asked ⟨c, b, time⟩] ⟨segments, .ending (next b)⟩
  | rest {segments : List (List Stage)} : Step ⟨segments, .ending (.done ())⟩ [] ⟨segments, .idle⟩

/-- Any number of steps, and all that happens in them. -/
inductive Run : Committer → List Event → Committer → Prop
  | refl (c : Committer) : Run c [] c
  | tail {c c' c'' : Committer} {trace events : List Event} (hr : Run c trace c')
    (hs : Step c' events c'') : Run c (trace ++ events) c''

variable {c c' c'' : Committer} {trace trace' events : List Event}

theorem Run.trans (h : Run c trace c') (h' : Run c' trace' c'') : Run c (trace ++ trace') c'' := by
  induction h' with
  | refl => rwa [List.append_nil]
  | tail _ hs ih =>
    rw [← List.append_assoc]
    exact .tail ih hs

theorem Run.head (hs : Step c events c') (h : Run c' trace c'') : Run c (events ++ trace) c'' :=
  Run.trans (.tail (.refl c) hs) h

end Batch

end StageRelay
