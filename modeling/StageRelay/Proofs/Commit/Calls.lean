import StageRelay.Commit.Basic
import StageRelay.Proofs.Work.Executions

/-!
# Calls of commits

Which calls a commit makes, how it ends after them, and what the end of a segment does, whatever the
services answer.
-/

namespace StageRelay

namespace Commit

variable {s : Stage} {before : List Answered}

/-! ## Commits that succeed -/

/-- What the registry listed for a stage. -/
def listing? (s : Stage) : Answered → Option (Kind × List Resource)
  | ⟨.list kind t, .ok rs, _⟩ => if t = s then some (kind, rs) else none
  | _ => none

/-- The calls that give the configuration of a stage: what is listed for it is converted, and
a stage that is gone has the empty one. -/
inductive Builds (s : Stage) : List Answered → Configuration → Prop
  | converted {object : Resource} {lists : List Answered} {listings : List (Kind × List Resource)}
    {c : Configuration} {time time' : Nat} (hl : lists.filterMap (listing? s) = listings)
    (hk : listings.map Prod.fst = Kind.stageScoped) :
    Builds s (⟨.get .stage ⟨s, s.name⟩, .ok object, time⟩ :: lists ++
      [⟨.convert s (listings.foldl (fun all l ↦ all.extend l.1 l.2) {}), .configuration c, time'⟩]) c
  | gone {kind : Kind} {key : ResourceKey} {time : Nat} :
    Builds s [⟨.get .stage ⟨s, s.name⟩, .error (.notFound kind key), time⟩]
      (.empty s.gateway s.name)

/-- The calls of a commit whose configuration was built and then taken by the publisher. -/
def Publishes (s : Stage) (calls : List Answered) : Prop :=
  ∃ (building : List Answered) (c : Configuration) (m : Measure) (time time' : Nat),
    Builds s building c ∧
      calls = building ++ [⟨.sync s.gateway s.name c, .ok (), time⟩, ⟨.note m, (), time'⟩]

theorem resourcesOf_answered (kinds : List Kind) (all : StageResources) :
    Job.wpe Job.answered
      (kinds.foldlM (fun all kind ↦ do
        match ← attempt (.list kind s) with
        | .ok listed => return all.extend kind listed
        | .error e => throw (.error (.registry e))) all)
      (fun rs calls ↦ effects calls = effects before ∧ ∃ lists listings,
        calls = before ++ lists ∧ lists.filterMap (listing? s) = listings ∧
          listings.map Prod.fst = kinds ∧
          rs = listings.foldl (fun all l ↦ all.extend l.1 l.2) all)
      (fun e calls ↦ effects calls = effects before ∧ ∃ reason, e = .error (.registry reason))
      before := by
  -- what was listed for earlier kinds is in `all`, and its calls are in `before`
  induction kinds generalizing all before with
  | nil => exact ⟨rfl, [], [], by simp, rfl, rfl, rfl⟩
  | cons kind kinds ih =>
    rw [List.foldlM_cons, Job.wpe_bind, Job.wpe_bind, attempt, Job.wpe_lift, Job.wp_ask]
    intro r time
    have heffects : effects (before ++ [⟨.list kind s, r, time⟩]) = effects before := by
      simp [Answered.effect?]
    cases r with
    | error e => exact ⟨heffects, e, rfl⟩
    | ok listed =>
      rw [Job.wpe_pure]
      refine Job.wpe_mono ?_ ?_ (ih (all.extend kind listed))
      · rintro rs calls ⟨hcalls, lists, listings, rfl, hl, rfl, rfl⟩
        refine ⟨hcalls.trans heffects, ⟨.list kind s, .ok listed, time⟩ :: lists,
          (kind, listed) :: listings, by simp, ?_, rfl, rfl⟩
        simp [listing?, hl]
      · rintro e calls ⟨hcalls, he⟩
        exact ⟨hcalls.trans heffects, he⟩

theorem build_answered :
    Job.wpe Job.answered (build s)
      (fun c calls ↦ effects calls = effects before ∧ ∃ building, calls = before ++ building ∧
        Builds s building c)
      (fun e calls ↦ effects calls = effects before ∧ ∀ t, e = .error (.stageNotFound t) →
        ∃ building, calls = before ++ building ∧ Builds s building (.empty s.gateway s.name))
      before := by
  rw [build, Job.wpe_bind, attempt, Job.wpe_lift, Job.wp_ask]
  intro r time
  have heffects : effects (before ++ [⟨.get .stage ⟨s, s.name⟩, r, time⟩]) = effects before := by
    simp [Answered.effect?]
  rcases r with (⟨kind, key⟩ | reason) | object
  · exact ⟨heffects, fun _ _ ↦ ⟨_, rfl, .gone⟩⟩
  · exact ⟨heffects, nofun⟩
  · simp only [Job.wpe_bind]
    refine Job.wpe_mono ?_ ?_ (resourcesOf_answered Kind.stageScoped {})
    · rintro rs calls ⟨hcalls, lists, listings, rfl, hl, hk, rfl⟩
      rw [attempt, Job.wpe_lift, Job.wp_ask]
      intro r time'
      have hconvert : effects (before ++ [⟨.get .stage ⟨s, s.name⟩, .ok object, time⟩] ++ lists ++
          [⟨.convert s (listings.foldl (fun all l ↦ all.extend l.1 l.2) {}), r, time'⟩]) =
          effects before := by
        rw [effects_append, hcalls, heffects]
        simp [Answered.effect?]
      cases r with
      | configuration c =>
        have hbuilds : Builds s (⟨.get .stage ⟨s, s.name⟩, .ok object, time⟩ :: lists ++ [⟨.convert s
            (listings.foldl (fun all l ↦ all.extend l.1 l.2) {}), .configuration c, time'⟩]) c :=
          .converted hl hk
        refine ⟨hconvert, _, ?_, hbuilds⟩
        simp only [List.append_assoc, List.cons_append, List.nil_append]
      | refused e => exact ⟨hconvert, nofun⟩
      | crashed => exact ⟨hconvert, nofun⟩
    · rintro e calls ⟨hcalls, reason, rfl⟩
      exact ⟨hcalls.trans heffects, nofun⟩

theorem toPublish_answered :
    (toPublish s).wp Job.answered
      (fun r calls ↦ effects calls = effects before ∧ ∀ c outcome, r = .ok (c, outcome) →
        ∃ building, calls = before ++ building ∧ Builds s building c) before := by
  rw [toPublish, Job.bind_eq, Job.wp_bind]
  refine Job.wp_mono ?_ build_answered
  rintro (e | c) calls ⟨hcalls, hb⟩
  · split
    · next heq => cases heq
    · next t heq =>
      refine ⟨hcalls, ?_⟩
      rintro c outcome ⟨⟩
      exact hb t (Except.error.inj heq)
    · exact ⟨hcalls, nofun⟩
  · refine ⟨hcalls, ?_⟩
    rintro c' outcome ⟨⟩
    exact hb

/-- What the calls of a commit are, once it has ended. -/
def Yields (s : Stage) (before calls : List Answered) : Except CommitFailure Unit → Prop
  | .ok () => effects calls = effects before ∧ ∃ made, calls = before ++ made ∧ Publishes s made
  | .error .crashed => effects calls = effects before
  | .error (.error _) => effects calls = effects before ++ [.postponed s.forRetry]

theorem fail_answered (e : CommitError) {calls : List Answered}
    (h : effects calls = effects before) :
    (fail s e).wp Job.answered (fun r calls ↦ Yields s before calls r) calls := by
  intro _ time _ time'
  simp [Yields, Answered.effect?, h]

/-- A commit that succeeds has published a configuration of its stage, and one that fails has put
its stage back. -/
theorem commitStage_answered :
    (commitStage s).wp Job.answered (fun r calls ↦ Yields s before calls r) before := by
  rw [commitStage, Job.bind_eq, Job.wp_bind]
  refine Job.wp_mono ?_ toPublish_answered
  rintro (e | ⟨c, outcome⟩) calls ⟨hcalls, hb⟩
  · cases e with
    | error e => exact fail_answered e hcalls
    | crashed => exact hcalls
  · obtain ⟨building, rfl, hbuilds⟩ := hb c outcome rfl
    intro r time
    cases r with
    | error e =>
      refine fail_answered (.sync e) ?_
      simpa [Answered.effect?] using hcalls
    | ok _ =>
      intro _ time'
      refine ⟨?_, _, ?_, building, c, .committed outcome, time, time', hbuilds, rfl⟩
      · simpa [Answered.effect?] using hcalls
      · simp only [List.append_assoc, List.cons_append, List.nil_append]

/-! ## Calls of a sort -/

/-- The calls that a commit of a stage makes. -/
def OfCommit (s : Stage) {β : Type} : Call β → Prop
  | .get _ _ => True
  | .list _ _ => True
  | .convert _ _ => True
  | .note _ => True
  | .sync gateway stage _ => gateway = s.gateway ∧ stage = s.name
  | .postpone t => t = s.forRetry
  | _ => False

/-- A commit puts nothing back but its stage. -/
theorem OfCommit.effect?_eq {a : Answered} {x : Effect} (h : OfCommit s a.call)
    (hx : a.effect? = some x) : x = .postponed s.forRetry := by
  obtain ⟨c, b, time⟩ := a
  cases c with
  | postpone t =>
    obtain rfl : t = s.forRetry := h
    exact (Option.some.inj hx).symm
  | flush => exact h.elim
  | report t status => exact h.elim
  | drain => exact h.elim
  | _ => cases hx

/-- What the calls of a commit have done once it has ended. -/
theorem commitStage_reaches {calls : List Answered} {r : Except CommitFailure Unit}
    (h : (commitStage s).Reaches calls (.done r)) : Yields s [] calls r :=
  h.of_wp commitStage_answered

/-- The calls that a configuration is built with. -/
def Reads {β : Type} : Call β → Prop
  | .get _ _ => True
  | .list _ _ => True
  | .convert _ _ => True
  | _ => False

/-- The calls that the configuration of a stage is built with. -/
def ReadsOf (s : Stage) {β : Type} : Call β → Prop
  | .get kind key => kind = .stage ∧ key = ⟨s, s.name⟩
  | .list _ t => t = s
  | .convert t _ => t = s
  | _ => False

theorem ReadsOf.reads {β : Type} {c : Call β} (h : ReadsOf s c) : Reads c := by
  cases c <;> first | exact trivial | exact h.elim

theorem Reads.ofCommit {β : Type} {c : Call β} (h : Reads c) : OfCommit s c := by
  cases c <;> trivial

/-- A configuration is built from what concerns its stage. -/
theorem build_own (s : Stage) : (build s).run.Only (ReadsOf s) := by
  have hlist (all : StageResources) (kinds : List Kind) :
      (kinds.foldlM (fun all kind ↦ do
        match ← attempt (.list kind s) with
        | .ok listed => return all.extend kind listed
        | .error e => throw (.error (.registry e))) all :
          Attempt StageResources).run.Only (ReadsOf s) := by
    induction kinds generalizing all with
    | nil => trivial
    | cons kind kinds ih =>
      refine Job.only_run_bind (Job.only_run_bind (Job.only_lift (Job.only_ask rfl)) ?_) ih
      rintro (e | listed) <;> trivial
  refine Job.only_run_bind (Job.only_lift (Job.only_ask ⟨rfl, rfl⟩)) ?_
  rintro (e | r)
  · cases e <;> trivial
  · refine Job.only_run_bind (hlist _ _) ?_
    intro rs
    refine Job.only_run_bind (Job.only_lift (Job.only_ask rfl)) ?_
    rintro (c | e | -) <;> trivial

theorem build_only (s : Stage) : (build s).run.Only Reads :=
  (build_own s).mono fun _ ↦ ReadsOf.reads

theorem toPublish_own (s : Stage) : (toPublish s).Only (ReadsOf s) := by
  refine Job.only_bind (build_own s) ?_
  rintro (e | c)
  · split <;> trivial
  · trivial

theorem commitStage_only (s : Stage) : (commitStage s).Only (OfCommit s) := by
  have hfail (e : CommitError) : (fail s e).Only (OfCommit s) :=
    ⟨trivial, fun _ ↦ ⟨rfl, fun _ ↦ trivial⟩⟩
  have hpublish : (toPublish s).Only (OfCommit s) :=
    (toPublish_own s).mono fun _ h ↦ h.reads.ofCommit
  refine Job.only_bind hpublish ?_
  rintro ((e | -) | ⟨c, outcome⟩)
  · exact hfail e
  · trivial
  · refine Job.only_bind (Job.only_ask ⟨rfl, rfl⟩) ?_
    rintro (e | -)
    · exact hfail (.sync e)
    · exact ⟨trivial, fun _ ↦ trivial⟩

/-! ## Ends of commits and of segments -/

/-- Whether a commit crashed. -/
def Ended.isCrashed (e : Ended) : Bool :=
  match e.result with
  | .error .crashed => true
  | _ => false

/-- The outcome that is reported of a commit once its segment is flushed. -/
def Ended.status (e : Ended) (flushed : Except SyncError Unit) : ReleaseStatus :=
  match e.result, flushed with
  | .ok (), .ok () => .succeeded
  | .ok (), .error f => .failed f.message
  | .error f, _ => .failed f.reason

/-- The report that is made of a stage. -/
def told (s : Stage) (status : ReleaseStatus) : List Effect :=
  if s.context.skipReport then [] else [.reported s status]

/-- What follows for a stage whose commit succeeded. -/
def settled (flushed : Except SyncError Unit) (s : Stage) : List Effect :=
  match flushed with
  | .ok () => told s .succeeded
  | .error f => .postponed s.forRetry :: told s (.failed f.message)

/-- What follows for a commit that failed. -/
def Ended.toldFailed (e : Ended) : List Effect :=
  match e.result with
  | .ok () => []
  | .error f => told e.stage (.failed f.reason)

/-- What follows the flush of a segment. -/
def aftermath (flushed : Except SyncError Unit) (ended : List Ended) : List Effect :=
  ((ended.filter Ended.isOk).map Ended.stage).flatMap (settled flushed) ++
    ended.flatMap Ended.toldFailed

theorem note_hasEffects (m : Measure) : (Job.note m).HasEffects [] :=
  .ask fun _ _ ↦ rfl

theorem requeue_hasEffects (s : Stage) : (requeue s).HasEffects [.postponed s.forRetry] :=
  .ask fun _ _ ↦ rfl

theorem report_hasEffects (s : Stage) (status : ReleaseStatus) :
    (report s status).HasEffects (told s status) := by
  unfold report told
  split
  · exact .done ()
  · exact .ask fun _ _ ↦ rfl

theorem join_hasEffects (s : Stage) (r : Except CommitFailure Unit) :
    (join s r).HasEffects (if (⟨s, r⟩ : Ended).isCrashed then [.postponed s.forRetry] else []) := by
  rcases r with (_ | _) | _
  · exact .done _
  · exact (note_hasEffects _).bind fun _ ↦ (requeue_hasEffects s).bind fun _ ↦ .done _
  · exact .done _

theorem join_reaches {r : Except CommitFailure Unit} {e : Ended} {calls : List Answered}
    (h : (join s r).Reaches calls (.done e)) :
    e = ⟨s, r⟩ ∧ effects calls = if e.isCrashed then [.postponed s.forRetry] else [] := by
  have hvalue : (join s r).wp Job.answered (fun e _ ↦ e = ⟨s, r⟩) [] := by
    rcases r with (_ | _) | _
    · rfl
    · exact fun _ _ _ _ ↦ rfl
    · rfl
  obtain rfl := h.of_wp hvalue
  exact ⟨rfl, (join_hasEffects s r).of_reaches h⟩

theorem reportFailed_hasEffects (ended : List Ended) :
    (reportFailed ended).HasEffects (ended.flatMap Ended.toldFailed) := by
  refine .forM ?_ ended
  rintro ⟨s, - | -⟩
  · exact report_hasEffects s _
  · exact .done _

theorem endSegment_reaches {ended : List Ended} {calls : List Answered}
    (h : (endSegment ended).Reaches calls (.done ())) : ∃ flushed time rest,
      calls = ⟨.flush, flushed, time⟩ :: rest ∧ effects rest = aftermath flushed ended := by
  cases h with
  | @call _ _ _ flushed time rest _ h =>
    refine ⟨flushed, time, rest, rfl, ?_⟩
    cases flushed with
    | ok _ =>
      refine Job.HasEffects.of_reaches (Job.HasEffects.bind ((note_hasEffects _).bind fun _ ↦ ?_)
        fun _ ↦ reportFailed_hasEffects ended) h
      exact .forM (fun s ↦ report_hasEffects s .succeeded) _
    | error e =>
      refine Job.HasEffects.of_reaches (Job.HasEffects.bind ((note_hasEffects _).bind fun _ ↦ ?_)
        fun _ ↦ reportFailed_hasEffects ended) h
      exact .forM (fun s ↦ (requeue_hasEffects s).bind fun _ ↦ report_hasEffects s _) _

/-! ## What is reported and what is put back -/

/-- The report of an effect. -/
def Effect.report? : Effect → Option (Stage × ReleaseStatus)
  | .reported s status => some (s, status)
  | _ => none

theorem filterMap_told (s : Stage) (status : ReleaseStatus) :
    (told s status).filterMap Effect.report? =
      if s.context.skipReport then [] else [(s, status)] := by
  unfold told
  split <;> rfl

theorem filterMap_settled {e : Ended} (h : e.isOk) (flushed : Except SyncError Unit) :
    (settled flushed e.stage).filterMap Effect.report? =
      if e.stage.context.skipReport then [] else [(e.stage, e.status flushed)] := by
  obtain ⟨s, _ | _⟩ := e
  · cases h
  · cases flushed <;> exact filterMap_told s _

theorem filterMap_toldFailed {e : Ended} (h : ¬ e.isOk) (flushed : Except SyncError Unit) :
    e.toldFailed.filterMap Effect.report? =
      if e.stage.context.skipReport then [] else [(e.stage, e.status flushed)] := by
  obtain ⟨s, _ | _⟩ := e
  · exact filterMap_told s _
  · exact absurd rfl h

theorem toldFailed_of_isOk {e : Ended} (h : e.isOk) : e.toldFailed = [] := by
  obtain ⟨s, _ | _⟩ := e
  · cases h
  · rfl

/-- Every commit of a segment is reported once, unless its stage wants no report. -/
theorem reported_aftermath (flushed : Except SyncError Unit) (ended : List Ended) :
    ((aftermath flushed ended).filterMap Effect.report?).Perm
      ((ended.filter fun e ↦ !e.stage.context.skipReport).map fun e ↦
        (e.stage, e.status flushed)) := by
  induction ended with
  | nil => exact .nil
  | cons e ended ih =>
    have hcons : ((e :: ended).filter fun e ↦ !e.stage.context.skipReport).map
        (fun e ↦ (e.stage, e.status flushed)) =
        (if e.stage.context.skipReport then [] else [(e.stage, e.status flushed)]) ++
          (ended.filter fun e ↦ !e.stage.context.skipReport).map fun e ↦
            (e.stage, e.status flushed) := by
      cases he : e.stage.context.skipReport <;> simp [he]
    rw [hcons]
    rw [aftermath, List.filterMap_append] at ih ⊢
    by_cases hok : e.isOk
    · rw [List.filter_cons_of_pos hok, List.map_cons, List.flatMap_cons, List.filterMap_append,
        filterMap_settled hok, List.flatMap_cons, toldFailed_of_isOk hok, List.nil_append,
        List.append_assoc]
      exact ih.append_left _
    · rw [List.filter_cons_of_neg hok, List.flatMap_cons, List.filterMap_append,
        filterMap_toldFailed hok]
      exact (List.perm_append_comm_assoc _ _ _).trans (ih.append_left _)

theorem not_postponed_mem_told {t : Stage} (status : ReleaseStatus) :
    .postponed t ∉ told s status := by
  unfold told
  split <;> simp

theorem postponed_mem_settled {t : Stage} {flushed : Except SyncError Unit} :
    .postponed t ∈ settled flushed s ↔ (∃ f, flushed = .error f) ∧ t = s.forRetry := by
  cases flushed with
  | ok _ => simp [settled, not_postponed_mem_told]
  | error f => simp [settled, not_postponed_mem_told]

theorem not_postponed_mem_toldFailed {e : Ended} {t : Stage} : .postponed t ∉ e.toldFailed := by
  obtain ⟨s, _ | _⟩ := e
  · exact not_postponed_mem_told _
  · exact List.not_mem_nil

theorem postponed_mem_aftermath {flushed : Except SyncError Unit} {ended : List Ended} :
    .postponed s ∈ aftermath flushed ended ↔
      (∃ f, flushed = .error f) ∧ ∃ e ∈ ended, e.isOk ∧ s = e.stage.forRetry := by
  simp only [aftermath, List.mem_append, List.mem_flatMap, not_postponed_mem_toldFailed, and_false,
    exists_false, or_false, postponed_mem_settled, List.mem_map, List.mem_filter]
  constructor
  · rintro ⟨t, ⟨e, ⟨he, hok⟩, rfl⟩, hf, hs⟩
    exact ⟨hf, e, he, hok, hs⟩
  · rintro ⟨hf, e, he, hok, hs⟩
    exact ⟨e.stage, ⟨e, ⟨he, hok⟩, rfl⟩, hf, hs⟩

/-- Nothing is done but to put stages back and to report. -/
theorem postponed_or_reported_of_mem_aftermath {flushed : Except SyncError Unit}
    {ended : List Ended} {x : Effect} (h : x ∈ aftermath flushed ended) :
    (∃ t, x = .postponed t) ∨ ∃ t status, x = .reported t status := by
  have htold {s : Stage} {status : ReleaseStatus} (h : x ∈ told s status) :
      ∃ t status, x = .reported t status := by
    unfold told at h
    split at h
    · cases h
    · exact ⟨s, status, List.mem_singleton.1 h⟩
  rcases List.mem_append.1 h with h | h
  · obtain ⟨s, -, hs⟩ := List.mem_flatMap.1 h
    cases flushed with
    | ok _ => exact .inr (htold hs)
    | error f =>
      rcases List.mem_cons.1 hs with rfl | hs
      · exact .inl ⟨_, rfl⟩
      · exact .inr (htold hs)
  · obtain ⟨⟨s, f | _⟩, -, hs⟩ := List.mem_flatMap.1 h
    · exact .inr (htold hs)
    · cases hs

/-! ## Segments -/

/-- Segments follow one another in their batch. -/
theorem flatten_segments (size : Nat) (batch : List Stage) :
    (segments size batch).flatten = batch := by
  induction batch using segments.induct size with
  | case1 => simp [segments]
  | case2 s rest ih => rw [segments, List.flatten_cons, ih, List.cons_append, List.take_append_drop]

theorem mem_segments {size : Nat} {batch segment : List Stage}
    (h : segment ∈ segments size batch) : segment ≠ [] ∧ segment.length ≤ max 1 size := by
  induction batch using segments.induct size with
  | case1 => simp [segments] at h
  | case2 s rest ih =>
    rw [segments] at h
    rcases List.mem_cons.1 h with rfl | h
    · refine ⟨List.cons_ne_nil _ _, ?_⟩
      rw [List.length_cons, List.length_take]
      omega
    · exact ih h

end Commit

end StageRelay
