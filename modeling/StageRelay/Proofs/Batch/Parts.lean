import StageRelay.Proofs.Batch.Segment

/-!
# Parts of a batch

What happens while a batch is committed falls into parts, one for each segment in their order, and
no part begins before the one before it is over.
-/

namespace StageRelay

namespace Batch

open Commit

/-! ## Parts -/

/-- What happened in a segment. -/
inductive Part where
  | skipped (segment : List Stage)
  /-- The segment was flushed at a time, after its commits and before the rest. -/
  | conducted (segment : List Stage) (commits : List Event) (flushed : Except SyncError Unit)
    (time : Nat) (rest : List Answered)

namespace Part

/-- The segment of a part. -/
def segment : Part → List Stage
  | skipped segment => segment
  | conducted segment _ _ _ _ => segment

/-- All that happened in a part. -/
def events : Part → List Event
  | skipped segment => [.begun segment]
  | conducted segment commits flushed time rest =>
    .begun segment :: commits ++ (Answered.mk .flush flushed time :: rest).map .asked

/-- Whether what happened is what should. -/
def Proper : Part → Prop
  | skipped segment => committable segment = []
  | conducted segment commits flushed _ rest =>
    committable segment ≠ [] ∧ UnderWay (committable segment) [] (endings commits) commits ∧
      effects rest = aftermath flushed ((endings commits).map Prod.snd)

end Part

/-! ## Runs -/

/-- How far the current segment is: it was begun, and this has happened since. -/
inductive Halfway : Progress → List (List Stage) → List Event → Prop
  | idle : Halfway .idle [] []
  | committing {segment : List Stage} {running : List Task} {ended : List (Nat × Ended)}
    {events : List Event} (hs : committable segment ≠ [])
    (h : UnderWay (committable segment) running ended events) :
    Halfway (.committing running ended) [segment] (.begun segment :: events)
  | ending {segment : List Stage} {ended : List (Nat × Ended)} {events : List Event}
    {calls : List Answered} {job : Job Unit} (hs : committable segment ≠ [])
    (h : UnderWay (committable segment) [] ended events)
    (hr : (endSegment (ended.map Prod.snd)).Reaches calls job) :
    Halfway (.ending job) [segment] (.begun segment :: events ++ calls.map .asked)

/-- The segments that are over have their parts, and the current one is on its way. -/
def Conducts (all : List (List Stage)) (c : Committer) (trace : List Event) : Prop :=
  ∃ (parts : List Part) (begun : List (List Stage)) (events : List Event),
    (∀ p ∈ parts, p.Proper) ∧ trace = parts.flatMap Part.events ++ events ∧
      parts.map Part.segment ++ begun ++ c.segments = all ∧ Halfway c.progress begun events

variable {all segments : List (List Stage)} {c c' : Committer} {trace events : List Event}

namespace Conducts

/-- Something happens in the current segment. -/
theorem go_on {p p' : Progress} (h : Conducts all ⟨segments, p⟩ trace)
    (hp : ∀ begun before, Halfway p begun before → Halfway p' begun (before ++ events)) :
    Conducts all ⟨segments, p'⟩ (trace ++ events) := by
  obtain ⟨parts, begun, before, hparts, rfl, hall, hway⟩ := h
  refine ⟨parts, begun, before ++ events, hparts, List.append_assoc _ _ _, hall, hp _ _ hway⟩

theorem start (size : Nat) (batch : List Stage) :
    Conducts (Commit.segments size batch) (.start size batch) [] :=
  ⟨[], [], [], List.forall_mem_nil _, rfl, rfl, .idle⟩

/-- The current segment is over. -/
theorem add (h : Conducts all c trace)
    (hp : ∀ begun before, Halfway c.progress begun before → ∃ part : Part, part.Proper ∧
      part.events = before ++ events ∧ begun ++ c.segments = part.segment :: segments) :
    Conducts all ⟨segments, .idle⟩ (trace ++ events) := by
  obtain ⟨parts, begun, before, hparts, rfl, hall, hway⟩ := h
  obtain ⟨part, hproper, hevents, hsegments⟩ := hp begun before hway
  refine ⟨parts ++ [part], [], [], ?_, ?_, ?_, .idle⟩
  · exact List.forall_mem_append.2 ⟨hparts, List.forall_mem_singleton.2 hproper⟩
  · rw [List.flatMap_append, List.flatMap_singleton, hevents, List.append_nil, List.append_assoc]
  · rw [List.map_append, ← hall, List.append_assoc _ begun, hsegments]
    simp

theorem step (h : Conducts all c trace) (hs : Step c events c') :
    Conducts all c' (trace ++ events) := by
  cases hs with
  | @skip segment segments hempty =>
    refine h.add ?_
    rintro begun before ⟨⟩
    exact ⟨.skipped segment, hempty, rfl, rfl⟩
  | @begin segment segments hne =>
    obtain ⟨parts, begun, before, hparts, rfl, hall, ⟨⟩⟩ := h
    refine ⟨parts, [segment], [.begun segment], hparts, by rw [List.append_nil], ?_, ?_⟩
    · rw [List.append_nil] at hall
      rw [List.append_assoc]
      exact hall
    · exact .committing hne (.start _)
  | call b time =>
    refine h.go_on ?_
    rintro begun before (_ | ⟨hne, hway⟩)
    exact .committing hne (((hway.perm List.perm_middle).call b time).perm List.perm_middle.symm)
  | crash =>
    refine h.go_on ?_
    rintro begun before (_ | ⟨hne, hway⟩)
    rw [List.append_nil]
    exact .committing hne ((hway.perm List.perm_middle).crash.perm List.perm_middle.symm)
  | join hj =>
    refine h.go_on ?_
    rintro begun before (_ | ⟨hne, hway⟩)
    exact .committing hne ((hway.perm List.perm_middle).join hj)
  | finish =>
    refine h.go_on ?_
    rintro begun before (_ | ⟨hne, hway⟩)
    exact .ending hne hway (.refl _)
  | conclude b time =>
    refine h.go_on ?_
    rintro begun before (_ | _ | ⟨hne, hway, hr⟩)
    rw [List.append_assoc, ← List.map_singleton, ← List.map_append]
    exact .ending hne hway (hr.concat b time)
  | rest =>
    refine h.add ?_
    rintro begun before (_ | _ | ⟨hne, hway, hr⟩)
    -- only a finished end tells what the flush was answered
    next segment ended commits calls =>
      obtain ⟨flushed, time, rest, rfl, hrest⟩ := endSegment_reaches hr
      obtain rfl := hway.endings
      exact ⟨.conducted segment commits flushed time rest, ⟨hne, hway, hrest⟩,
        (List.append_nil _).symm, rfl⟩

/-- Whatever steps are taken, what has happened falls into parts. -/
theorem run {size : Nat} {batch : List Stage} (h : Run (.start size batch) trace c) :
    Conducts (Commit.segments size batch) c trace := by
  induction h with
  | refl => exact .start size batch
  | tail _ hs ih => exact ih.step hs

end Conducts

/-- In the end every segment has its part. -/
theorem exists_parts {size : Nat} {batch : List Stage} (h : Run (.start size batch) trace .finished) :
    ∃ parts : List Part, (∀ p ∈ parts, p.Proper) ∧ trace = parts.flatMap Part.events ∧
      parts.map Part.segment = Commit.segments size batch := by
  obtain ⟨parts, begun, events, hparts, rfl, hall, ⟨⟩⟩ := Conducts.run h
  refine ⟨parts, hparts, List.append_nil _, ?_⟩
  rw [← hall, List.append_nil]
  exact (List.append_nil _).symm

end Batch

end StageRelay
