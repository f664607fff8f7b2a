import StageRelay.Proofs.Batch.Committer

/-!
# Segments

What has happened since a segment was begun. While commits run, each stage of the segment is either
still being committed or has ended, and the calls under its number are those of its commit.
-/

namespace StageRelay

namespace Batch

open Commit

/-! ## Parts of what happened -/

/-- The end of a commit that an event tells of. -/
def Event.ending? : Event → Option (Nat × Ended)
  | .ended i e => some (i, e)
  | _ => none

/-- The call that an event tells of, if the commit with a number makes it. -/
def Event.callOf? (i : Nat) : Event → Option Answered
  | .called j a => if j = i then some a else none
  | _ => none

/-- The call that an event tells of, if the committer itself makes it. -/
def Event.asked? : Event → Option Answered
  | .asked a => some a
  | _ => none

/-- The call that an event tells of. -/
def Event.call? : Event → Option Answered
  | .called _ a => some a
  | .asked a => some a
  | _ => none

/-- The commits that have ended, with their numbers. -/
def endings (events : List Event) : List (Nat × Ended) :=
  events.filterMap Event.ending?

/-- The calls of the commit with a number. -/
def callsOf (i : Nat) (events : List Event) : List Answered :=
  events.filterMap (Event.callOf? i)

/-- The calls of the committer itself. -/
def asked (events : List Event) : List Answered :=
  events.filterMap Event.asked?

/-- All calls. -/
def calls (events : List Event) : List Answered :=
  events.filterMap Event.call?

variable {events events' : List Event} {as : List Answered} {a : Answered} {i j : Nat} {e : Ended}

@[simp] theorem endings_append : endings (events ++ events') = endings events ++ endings events' :=
  List.filterMap_append

@[simp] theorem callsOf_append :
    callsOf i (events ++ events') = callsOf i events ++ callsOf i events' :=
  List.filterMap_append

@[simp] theorem asked_append : asked (events ++ events') = asked events ++ asked events' :=
  List.filterMap_append

@[simp] theorem calls_append : calls (events ++ events') = calls events ++ calls events' :=
  List.filterMap_append

@[simp] theorem endings_map_asked : endings (as.map .asked) = [] := by
  simp [endings, Event.ending?]

@[simp] theorem callsOf_map_asked : callsOf i (as.map .asked) = [] := by
  simp [callsOf, Event.callOf?]

@[simp] theorem asked_map_asked : asked (as.map .asked) = as := by
  rw [asked, List.filterMap_map]
  exact List.filterMap_some

@[simp] theorem calls_map_called : calls (as.map (.called i)) = as := by
  rw [calls, List.filterMap_map]
  exact List.filterMap_some

@[simp] theorem calls_map_asked : calls (as.map .asked) = as := by
  rw [calls, List.filterMap_map]
  exact List.filterMap_some

@[simp] theorem endings_ended : endings (.ended i e :: events) = (i, e) :: endings events := rfl

@[simp] theorem callsOf_ended : callsOf j (.ended i e :: events) = callsOf j events := rfl

@[simp] theorem asked_ended : asked (.ended i e :: events) = asked events := rfl

@[simp] theorem calls_ended : calls (.ended i e :: events) = calls events := rfl

@[simp] theorem calls_begun (segment : List Stage) :
    calls (.begun segment :: events) = calls events := rfl

theorem callsOf_called (h : i ≠ j) : callsOf j [.called i a] = [] := by
  simp [callsOf, Event.callOf?, h]

theorem callsOf_called_self : callsOf i [.called i a] = [a] := by
  simp [callsOf, Event.callOf?]

theorem mem_callsOf : a ∈ callsOf i events ↔ .called i a ∈ events := by
  refine ⟨fun h ↦ ?_, fun h ↦ List.mem_filterMap.2 ⟨_, h, if_pos rfl⟩⟩
  obtain ⟨x, hx, hcall⟩ := List.mem_filterMap.1 h
  cases x with
  | called j b =>
    simp only [Event.callOf?] at hcall
    split at hcall
    · next hj =>
      obtain rfl := Option.some.inj hcall
      rwa [← hj]
    · cases hcall
  | _ => cases hcall

/-- Every effect is that of a commit or of the committer itself. -/
theorem mem_effects_calls {x : Effect} : x ∈ effects (calls events) ↔
    (∃ i a, .called i a ∈ events ∧ a.effect? = some x) ∨ x ∈ effects (asked events) := by
  simp only [effects, calls, asked, List.mem_filterMap]
  constructor
  · rintro ⟨a, ⟨y, hy, hcall⟩, hx⟩
    cases y with
    | begun segment => cases hcall
    | ended i e => cases hcall
    | called i b =>
      obtain rfl := Option.some.inj hcall
      exact .inl ⟨i, b, hy, hx⟩
    | asked b =>
      obtain rfl := Option.some.inj hcall
      exact .inr ⟨b, ⟨_, hy, rfl⟩, hx⟩
  · rintro (⟨i, a, ha, hx⟩ | ⟨a, ⟨y, hy, hasked⟩, hx⟩)
    · exact ⟨a, ⟨_, ha, rfl⟩, hx⟩
    · cases y with
      | asked b => exact ⟨a, ⟨_, hy, hasked⟩, hx⟩
      | _ => cases hasked

/-! ## Commits under way -/

/-- The calls of the commit of a stage and what is left of it, which is nothing once it crashed. -/
def Went (s : Stage) (calls : List Answered) (job : Job (Except CommitFailure Unit)) : Prop :=
  (commitStage s).Reaches calls job ∨
    job = .done (.error .crashed) ∧ ∃ job', (commitStage s).Reaches calls job'

/-- Whether an event may come after another one: a commit that has ended makes no calls. -/
def Follows (x y : Event) : Prop :=
  ∀ i e a, x = .ended i e → y ≠ .called i a

/-- Whether an event belongs to the commits of some stages. -/
def OfCommits (stages : List Stage) : Event → Prop
  | .begun _ => False
  | .called i a => ∃ s, stages[i]? = some s ∧ OfCommit s a.call
  | _ => True

/-- Some commits of a segment run and the others have ended. -/
structure UnderWay (stages : List Stage) (running : List Task) (ended : List (Nat × Ended))
    (events : List Event) : Prop where
  /-- Every stage is committed once. -/
  once : (running.map (fun t ↦ (t.stage, t.number)) ++
    ended.map fun e ↦ (e.2.stage, e.1)).Perm stages.zipIdx
  endings : endings events = ended
  went : ∀ t ∈ running, Went t.stage (callsOf t.number events) t.job
  gone : ∀ e ∈ ended, Went e.2.stage (callsOf e.1 events) (.done e.2.result)
  follows : events.Pairwise Follows
  proper : ∀ x ∈ events, OfCommits stages x
  /-- The committer has put back the stages whose commits crashed. -/
  requeued : effects (asked events) =
    (ended.filter fun e ↦ e.2.isCrashed).map fun e ↦ .postponed e.2.stage.forRetry

namespace UnderWay

variable {stages : List Stage} {running rest : List Task} {ended : List (Nat × Ended)} {s : Stage}

theorem start (stages : List Stage) : UnderWay stages (tasks stages) [] [] where
  once := by
    rw [tasks, List.map_map, List.map_nil, List.append_nil]
    exact .of_eq (List.map_id _)
  endings := rfl
  went t ht := by
    obtain ⟨e, -, rfl⟩ := List.mem_map.1 ht
    exact .inl (.refl _)
  gone := List.forall_mem_nil _
  follows := .nil
  proper := List.forall_mem_nil _
  requeued := rfl

theorem perm (h : UnderWay stages running ended events) (hp : running.Perm rest) :
    UnderWay stages rest ended events where
  once := ((hp.map _).append_right _).symm.trans h.once
  endings := h.endings
  went t ht := h.went t (hp.mem_iff.2 ht)
  gone := h.gone
  follows := h.follows
  proper := h.proper
  requeued := h.requeued

/-- No number is used twice. -/
theorem nodup (h : UnderWay stages running ended events) :
    (running.map Task.number ++ ended.map Prod.fst).Nodup := by
  have hnumbers : (running.map Task.number ++ ended.map Prod.fst).Perm
      (stages.zipIdx.map Prod.snd) := by
    simpa [Function.comp_def] using h.once.map Prod.snd
  rw [hnumbers.nodup_iff, List.zipIdx_map_snd]
  exact List.nodup_range'

theorem stage_eq {t : Task} (h : UnderWay stages (t :: rest) ended events) :
    stages[t.number]? = some t.stage := by
  have hmem : (t.stage, t.number) ∈ stages.zipIdx :=
    h.once.mem_iff.1 (List.mem_append_left _ (List.mem_map_of_mem List.mem_cons_self))
  exact List.mem_zipIdx_iff_getElem?.1 hmem

/-- The number of a commit that runs is not that of another one. -/
theorem number_ne {t : Task} (h : UnderWay stages (t :: rest) ended events) :
    (∀ u ∈ rest, t.number ≠ u.number) ∧ ∀ e ∈ ended, t.number ≠ e.1 := by
  have hnot : t.number ∉ rest.map Task.number ++ ended.map Prod.fst := (List.nodup_cons.1 h.nodup).1
  rw [List.mem_append, not_or] at hnot
  refine ⟨fun u hu heq ↦ hnot.1 ?_, fun e he heq ↦ hnot.2 ?_⟩
  · exact heq ▸ List.mem_map_of_mem hu
  · exact heq ▸ List.mem_map_of_mem he

/-- A commit makes a call. -/
theorem call {β : Type} {c : Call β} {next : β → Job (Except CommitFailure Unit)}
    (h : UnderWay stages (⟨i, s, .call c next⟩ :: rest) ended events) (b : β) (time : Nat) :
    UnderWay stages (⟨i, s, next b⟩ :: rest) ended (events ++ [.called i ⟨c, b, time⟩]) := by
  obtain ⟨hrest, hended⟩ := h.number_ne
  have hreaches : (commitStage s).Reaches (callsOf i events) (.call c next) :=
    (h.went _ List.mem_cons_self).resolve_right fun hcrashed ↦ nomatch hcrashed.1
  constructor
  case once => exact h.once
  case endings =>
    rw [endings_append, h.endings]
    exact List.append_nil ended
  case went =>
    refine List.forall_mem_cons.2 ⟨.inl ?_, fun u hu ↦ ?_⟩
    · rw [callsOf_append, callsOf_called_self]
      exact hreaches.concat b time
    · rw [callsOf_append, callsOf_called (hrest u hu), List.append_nil]
      exact h.went u (List.mem_cons_of_mem _ hu)
  case gone =>
    intro e he
    rw [callsOf_append, callsOf_called (hended e he), List.append_nil]
    exact h.gone e he
  case follows =>
    refine List.pairwise_append.2 ⟨h.follows, List.pairwise_singleton _ _, ?_⟩
    rintro x hx _ hy i' e a rfl heq
    obtain rfl := List.mem_singleton.1 hy
    obtain rfl : i = i' := (Event.called.inj heq).1
    -- a commit that has ended has another number than one that runs
    have hmem : (i, e) ∈ ended := h.endings ▸ List.mem_filterMap.2 ⟨_, hx, rfl⟩
    exact hended _ hmem rfl
  case proper =>
    refine List.forall_mem_append.2 ⟨h.proper, List.forall_mem_singleton.2 ⟨s, h.stage_eq, ?_⟩⟩
    exact ((commitStage_only s).of_reaches hreaches).2.1
  case requeued =>
    rw [asked_append, ← h.requeued]
    exact congrArg effects (List.append_nil _)

/-- A commit crashes. -/
theorem crash {job : Job (Except CommitFailure Unit)}
    (h : UnderWay stages (⟨i, s, job⟩ :: rest) ended events) :
    UnderWay stages (⟨i, s, .done (.error .crashed)⟩ :: rest) ended events where
  once := h.once
  endings := h.endings
  went := by
    obtain ⟨hwent, hrest⟩ := List.forall_mem_cons.1 h.went
    refine List.forall_mem_cons.2 ⟨.inr ⟨rfl, ?_⟩, hrest⟩
    rcases hwent with hreaches | ⟨-, hreaches⟩
    · exact ⟨job, hreaches⟩
    · exact hreaches
  gone := h.gone
  follows := h.follows
  proper := h.proper
  requeued := h.requeued

/-- The committer takes note of the end of a commit. -/
theorem join {r : Except CommitFailure Unit}
    (h : UnderWay stages (⟨i, s, .done r⟩ :: rest) ended events)
    (hj : (Commit.join s r).Reaches as (.done e)) :
    UnderWay stages rest (ended ++ [(i, e)]) (events ++ .ended i e :: as.map .asked) := by
  obtain ⟨rfl, heffects⟩ := join_reaches hj
  -- what the committer calls itself is no call of a commit
  have hcallsOf (j : Nat) : callsOf j (events ++ .ended i ⟨s, r⟩ :: as.map .asked) =
      callsOf j events := by
    simp
  constructor
  case once =>
    rw [List.map_append, ← List.append_assoc]
    refine .trans ?_ h.once
    exact List.perm_append_singleton _ _
  case endings => simp [h.endings]
  case went =>
    intro u hu
    rw [hcallsOf]
    exact h.went u (List.mem_cons_of_mem _ hu)
  case gone =>
    refine List.forall_mem_append.2 ⟨?_, List.forall_mem_singleton.2 ?_⟩
    · intro e he
      rw [hcallsOf]
      exact h.gone e he
    · rw [hcallsOf]
      exact h.went _ List.mem_cons_self
  case follows =>
    have hasked (y : Event) (hy : y ∈ .ended i ⟨s, r⟩ :: as.map .asked) (x : Event) :
        Follows x y := by
      rintro i' e a - rfl
      simp at hy
    refine List.pairwise_append.2 ⟨h.follows, ?_, fun x _ y hy ↦ hasked y hy x⟩
    exact List.pairwise_of_forall_mem_list fun x _ y hy ↦ hasked y hy x
  case proper =>
    refine List.forall_mem_append.2 ⟨h.proper, List.forall_mem_cons.2 ⟨trivial, ?_⟩⟩
    intro x hx
    obtain ⟨a, -, rfl⟩ := List.mem_map.1 hx
    trivial
  case requeued =>
    rw [asked_append, asked_ended, asked_map_asked, effects_append, h.requeued, heffects]
    cases hcrashed : (⟨s, r⟩ : Ended).isCrashed <;> simp [hcrashed]

/-! ### Segments whose commits have ended -/

variable {commits : List Event}

/-- Until all commits have ended stages are put back, and nothing else is done. -/
theorem postponed_of_mem_effects (h : UnderWay stages running ended events) {x : Effect}
    (hx : x ∈ effects (calls events)) : ∃ t, x = .postponed t := by
  rcases mem_effects_calls.1 hx with ⟨i, a, ha, hx⟩ | hx
  · obtain ⟨s, -, hcall⟩ := h.proper _ ha
    exact ⟨_, hcall.effect?_eq hx⟩
  · rw [h.requeued] at hx
    obtain ⟨e, -, rfl⟩ := List.mem_map.1 hx
    exact ⟨_, rfl⟩

/-- A commit that succeeds has built and published a configuration. -/
theorem publishes (h : UnderWay stages running ended commits)
    (he : (i, ⟨s, .ok ()⟩) ∈ ended) :
    Publishes s (callsOf i commits) ∧ effects (callsOf i commits) = [] := by
  rcases h.gone _ he with hreaches | ⟨hcrashed, -⟩
  · obtain ⟨heffects, made, hmade, hpublishes⟩ := commitStage_reaches hreaches
    obtain rfl : callsOf i commits = made := hmade
    exact ⟨hpublishes, heffects⟩
  · cases hcrashed

/-- A commit that fails has its stage put back. -/
theorem postpones (h : UnderWay stages running ended commits) {e : Nat × Ended} (he : e ∈ ended)
    (hnot : ¬ e.2.isOk) : .postponed e.2.stage.forRetry ∈ effects (calls commits) := by
  obtain ⟨i, s, r⟩ := e
  rcases r with (f | _) | _
  · rcases h.gone _ he with hreaches | ⟨hcrashed, -⟩
    · have heffects : effects (callsOf i commits) = [.postponed s.forRetry] :=
        commitStage_reaches hreaches
      have hmem : .postponed s.forRetry ∈ effects (callsOf i commits) :=
        heffects ▸ List.mem_singleton_self _
      obtain ⟨a, ha, hx⟩ := List.mem_filterMap.1 hmem
      exact mem_effects_calls.2 (.inl ⟨i, a, mem_callsOf.1 ha, hx⟩)
    · cases hcrashed
  · refine mem_effects_calls.2 (.inr ?_)
    rw [h.requeued]
    exact List.mem_map_of_mem (List.mem_filter.2 ⟨he, rfl⟩)
  · exact absurd rfl hnot

/-- The commits that have ended are those of the stages. -/
theorem exists_ended_iff (h : UnderWay stages [] ended commits) :
    (∃ r, (i, ⟨s, r⟩) ∈ ended) ↔ (s, i) ∈ stages.zipIdx := by
  rw [← h.once.mem_iff, List.map_nil, List.nil_append, List.mem_map]
  constructor
  · rintro ⟨r, hr⟩
    exact ⟨_, hr, rfl⟩
  · rintro ⟨⟨j, t, r⟩, hr, heq⟩
    obtain ⟨rfl, rfl⟩ := Prod.mk.inj heq
    exact ⟨r, hr⟩

/-- The stages that are put back are those whose commits failed. -/
theorem postponed_mem_effects_iff (h : UnderWay stages [] ended commits) {t : Stage} :
    .postponed t ∈ effects (calls commits) ↔ ∃ e ∈ ended, ¬ e.2.isOk ∧ t = e.2.stage.forRetry := by
  constructor
  · intro ht
    rcases mem_effects_calls.1 ht with ⟨i, a, ha, hx⟩ | hx
    · obtain ⟨s, hs, hcall⟩ := h.proper _ ha
      obtain rfl := Effect.postponed.inj (hcall.effect?_eq hx)
      obtain ⟨r, he⟩ := h.exists_ended_iff.2 (List.mem_zipIdx_iff_getElem?.2 hs)
      refine ⟨_, he, ?_, rfl⟩
      rcases r with f | _
      · exact Bool.false_ne_true
      -- a commit that succeeded has put nothing back
      · have hown : .postponed s.forRetry ∈ effects (callsOf i commits) :=
          List.mem_filterMap.2 ⟨a, mem_callsOf.2 ha, hx⟩
        rw [(h.publishes he).2] at hown
        cases hown
    · rw [h.requeued] at hx
      obtain ⟨e, he, heq⟩ := List.mem_map.1 hx
      obtain ⟨he, hcrashed⟩ := List.mem_filter.1 he
      refine ⟨e, he, ?_, (Effect.postponed.inj heq).symm⟩
      obtain ⟨i, s, (f | _) | _⟩ := e
      · cases hcrashed
      · exact Bool.false_ne_true
      · cases hcrashed
  · rintro ⟨e, he, hnot, rfl⟩
    exact h.postpones he hnot

end UnderWay

end Batch

end StageRelay
