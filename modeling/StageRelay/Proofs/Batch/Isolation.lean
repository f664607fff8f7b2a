import Mathlib.Data.List.Nodup
import StageRelay.Proofs.Batch.Environment
import StageRelay.Proofs.Batch.Retries

/-!
# Stages apart from one another

A batch that is committed in a fixed environment publishes, reports and puts back for each of its
stages what the environment settles for this stage. Neither the size of the segments nor the order in
which the commits call and end changes anything about it, nor do the other stages of the batch.
-/

namespace StageRelay

/-- The payload that waits under a key. -/
def Debouncer.payload? (d : Debouncer) (key : String) : Option Stage :=
  (d.waiting.find? key).map Waiting.stage

namespace Batch

open Commit

/-! ## What is seen of a run -/

/-- What was published. -/
def publications (trace : List Event) : List (String × String × Configuration) :=
  (calls trace).filterMap Answered.sync?

/-- The outcomes that were reported. -/
def reports (trace : List Event) : List (Stage × ReleaseStatus) :=
  (effects (calls trace)).filterMap Effect.report?

variable {trace trace' : List Event} {env env' : Environment} {s : Stage}

theorem publications_append :
    publications (trace ++ trace') = publications trace ++ publications trace' := by
  rw [publications, calls_append, List.filterMap_append]
  rfl

/-- Whether a run takes place in an environment: calls are answered as it does, and a commit crashes
only if it has it crash. -/
structure Environment.Obeyed (env : Environment) (trace : List Event) : Prop where
  answers : ∀ a ∈ calls trace, env.Answers a
  crashes : ∀ i s, .ended i ⟨s, .error .crashed⟩ ∈ trace → env.verdict s = .error .crashed

namespace Environment.Obeyed

theorem nil (env : Environment) : env.Obeyed [] :=
  ⟨List.forall_mem_nil _, fun _ _ h ↦ nomatch h⟩

theorem append (h : env.Obeyed trace) (h' : env.Obeyed trace') : env.Obeyed (trace ++ trace') where
  answers := by
    rw [calls_append]
    exact List.forall_mem_append.2 ⟨h.answers, h'.answers⟩
  crashes i s he := by
    rcases List.mem_append.1 he with he | he
    · exact h.crashes i s he
    · exact h'.crashes i s he

theorem mono (h : env.Obeyed trace) (hsub : ∀ x ∈ trace', x ∈ trace) : env.Obeyed trace' where
  answers a ha := by
    obtain ⟨x, hx, hcall⟩ := List.mem_filterMap.1 ha
    exact h.answers a (List.mem_filterMap.2 ⟨x, hsub x hx, hcall⟩)
  crashes i s he := h.crashes i s (hsub _ he)

end Environment.Obeyed

/-! ## What the committer calls itself -/

/-- The calls that are not those of a commit. -/
def Asks {β : Type} : Call β → Prop
  | .flush => True
  | .note _ => True
  | .postpone _ => True
  | .report _ _ => True
  | _ => False

theorem Asks.sync?_eq_none {a : Answered} (h : Asks a.call) : a.sync? = none := by
  obtain ⟨c, b, time⟩ := a
  cases c <;> first | rfl | exact h.elim

theorem join_asks (s : Stage) (r : Except CommitFailure Unit) : (Commit.join s r).Only Asks := by
  rcases r with (e | -) | r
  · exact trivial
  · exact ⟨trivial, fun _ ↦ ⟨trivial, fun _ ↦ trivial⟩⟩
  · exact trivial

theorem endSegment_asks (ended : List Ended) : (endSegment ended).Only Asks := by
  have hreport (s : Stage) (status : ReleaseStatus) : (report s status).Only Asks := by
    unfold report
    split
    · exact trivial
    · exact ⟨trivial, fun _ ↦ trivial⟩
  refine Job.only_bind ?_ fun _ ↦ Job.only_forM fun e _ ↦ ?_
  · refine ⟨trivial, ?_⟩
    rintro (e | -)
    · exact ⟨trivial, fun _ ↦ Job.only_forM fun s _ ↦ ⟨trivial, fun _ ↦ hreport s _⟩⟩
    · exact ⟨trivial, fun _ ↦ Job.only_forM fun s _ ↦ hreport s _⟩
  · obtain ⟨s, f | -⟩ := e
    · exact hreport s _
    · exact trivial

/-- Whether the committer has no other calls to make itself. -/
def Committer.Asking (c : Committer) : Prop :=
  match c.progress with
  | .ending job => job.Only Asks
  | _ => True

theorem Step.asks {c c' : Committer} {events : List Event} (h : Step c events c') (hc : c.Asking) :
    (∀ a, .asked a ∈ events → Asks a.call) ∧ c'.Asking := by
  cases h with
  | skip hempty => exact ⟨by simp, trivial⟩
  | begin hne => exact ⟨by simp, trivial⟩
  | call b time => exact ⟨by simp, trivial⟩
  | crash => exact ⟨by simp, trivial⟩
  | @join _ _ _ _ _ _ _ _ calls hj =>
    refine ⟨?_, trivial⟩
    intro a ha
    have ha : a ∈ calls := by simpa using ha
    exact ((join_asks _ _).of_reaches hj).1 a ha
  | finish => exact ⟨by simp, endSegment_asks _⟩
  | conclude b time =>
    refine ⟨?_, hc.2 b⟩
    intro a ha
    obtain rfl := Event.asked.inj (List.mem_singleton.1 ha)
    exact hc.1
  | rest => exact ⟨by simp, trivial⟩

theorem Run.asks {c c' : Committer} (h : Run c trace c') (hc : c.Asking) :
    (∀ a, .asked a ∈ trace → Asks a.call) ∧ c'.Asking := by
  induction h with
  | refl => exact ⟨fun _ h ↦ absurd h List.not_mem_nil, hc⟩
  | tail _ hs ih =>
    obtain ⟨hbefore, hmiddle⟩ := ih
    obtain ⟨hevents, hafter⟩ := hs.asks hmiddle
    refine ⟨?_, hafter⟩
    intro a ha
    rcases List.mem_append.1 ha with ha | ha
    · exact hbefore a ha
    · exact hevents a ha

/-! ## Commits side by side -/

theorem filterMap_cons_toList {α β : Type*} (f : α → Option β) (a : α) (as : List α) :
    (a :: as).filterMap f = (f a).toList ++ as.filterMap f := by
  rw [List.filterMap_cons]
  cases f a <;> rfl

/-- Of a list without repetitions only one member counts if all others yield nothing. -/
theorem flatMap_eq_of_nodup {α β : Type*} {f : α → List β} {as : List α} {a : α} (has : as.Nodup)
    (ha : a ∈ as) (hf : ∀ b ∈ as, b ≠ a → f b = []) : as.flatMap f = f a := by
  induction as with
  | nil => cases ha
  | cons b as ih =>
    obtain ⟨hb, hnodup⟩ := List.nodup_cons.1 has
    obtain ⟨hhead, htail⟩ := List.forall_mem_cons.1 hf
    rw [List.flatMap_cons]
    rcases List.mem_cons.1 ha with rfl | ha
    · rw [List.flatMap_eq_nil_iff.2 fun b hbs ↦ htail b hbs fun heq ↦ hb (heq ▸ hbs),
        List.append_nil]
    · rw [hhead fun heq ↦ hb (heq ▸ ha), List.nil_append, ih hnodup ha htail]

theorem filterMap_eq_of_nodup {α β : Type*} {f : α → Option β} {as : List α} {a : α}
    (has : as.Nodup) (ha : a ∈ as) (hf : ∀ b ∈ as, b ≠ a → f b = none) :
    as.filterMap f = (f a).toList := by
  rw [List.filterMap_eq_flatMap_toList]
  exact flatMap_eq_of_nodup has ha fun b hb hne ↦ by rw [hf b hb hne]; rfl

/-- What the commits of a segment published, sorted by commits. -/
theorem publications_perm_callsOf {events : List Event} {numbers : List Nat}
    (hnumbers : numbers.Nodup) (hcalled : ∀ i a, .called i a ∈ events → i ∈ numbers)
    (hasked : ∀ a, .asked a ∈ events → Asks a.call) :
    (publications events).Perm
      (numbers.flatMap fun i ↦ (callsOf i events).filterMap Answered.sync?) := by
  induction events with
  | nil => exact .of_eq (List.flatMap_eq_nil_iff.2 fun _ _ ↦ rfl).symm
  | cons x events ih =>
    have ih := ih (fun i a h ↦ hcalled i a (List.mem_cons_of_mem _ h))
      fun a h ↦ hasked a (List.mem_cons_of_mem _ h)
    cases x with
    | begun segment => exact ih
    | ended i e => exact ih
    | asked a =>
      have hnone : publications (.asked a :: events) = publications events :=
        List.filterMap_cons_none (hasked a List.mem_cons_self).sync?_eq_none
      rw [hnone]
      exact ih
    | called i a =>
      have hcons (j : Nat) : (callsOf j (.called i a :: events)).filterMap Answered.sync? =
          (if i = j then a.sync?.toList else []) ++
            (callsOf j events).filterMap Answered.sync? := by
        rw [← List.singleton_append, callsOf_append, List.filterMap_append]
        by_cases hij : i = j
        · rw [if_pos hij, ← hij, callsOf_called_self, filterMap_cons_toList]
          simp
        · rw [if_neg hij, callsOf_called hij]
          rfl
      have hhead : publications (.called i a :: events) = a.sync?.toList ++ publications events :=
        filterMap_cons_toList _ _ _
      simp only [hcons]
      rw [hhead]
      refine .trans ?_ (List.flatMap_append_perm _ _ _)
      have hi : i ∈ numbers := hcalled i a List.mem_cons_self
      rw [flatMap_eq_of_nodup hnumbers hi fun j _ hne ↦ if_neg (Ne.symm hne), if_pos rfl]
      exact ih.append_left _

/-- The outcome that is reported of a stage. -/
def Environment.status (env : Environment) (s : Stage) : ReleaseStatus :=
  (⟨s, env.verdict s⟩ : Ended).status (.ok ())

section Segment

variable {stages : List Stage} {ended : List (Nat × Ended)} {commits : List Event}

theorem UnderWay.stages_perm (h : UnderWay stages [] ended commits) :
    (ended.map fun e ↦ e.2.stage).Perm stages := by
  simpa [Function.comp_def] using h.once.map Prod.fst

/-- Each commit that has ended did what the environment settles for its stage. -/
theorem UnderWay.settled (h : UnderWay stages [] ended commits) (ho : env.Obeyed commits)
    {e : Nat × Ended} (he : e ∈ ended) :
    (callsOf e.1 commits).filterMap Answered.sync? = env.published e.2.stage ∧
      e.2.result = env.verdict e.2.stage := by
  refine Environment.commit_of_went (h.gone e he) ?_ ?_
  · intro x hx
    exact ho.answers x (List.mem_filterMap.2 ⟨_, mem_callsOf.1 hx, rfl⟩)
  · obtain ⟨i, s, r⟩ := e
    rintro rfl
    rw [← h.endings] at he
    obtain ⟨x, hx, hending⟩ := List.mem_filterMap.1 he
    cases x with
    | ended j e =>
      obtain ⟨rfl, rfl⟩ := Prod.mk.inj (Option.some.inj hending)
      exact ho.crashes j s hx
    | _ => cases hending

theorem UnderWay.publications_perm (h : UnderWay stages [] ended commits) (ho : env.Obeyed commits)
    (hasked : ∀ a, .asked a ∈ commits → Asks a.call) :
    (publications commits).Perm (stages.flatMap env.published) := by
  have hcalled (i : Nat) (a : Answered) (ha : .called i a ∈ commits) : i ∈ ended.map Prod.fst := by
    obtain ⟨s, hs, -⟩ := h.proper _ ha
    obtain ⟨r, he⟩ := h.exists_ended_iff.2 (List.mem_zipIdx_iff_getElem?.2 hs)
    exact List.mem_map_of_mem he
  refine (publications_perm_callsOf h.nodup hcalled hasked).trans ?_
  refine .trans (.of_eq ?_) (h.stages_perm.flatMap_right env.published)
  rw [List.map_nil, List.nil_append, List.flatMap_map, List.flatMap_map]
  exact List.flatMap_congr fun e he ↦ (h.settled ho he).1

end Segment

/-! ## Parts -/

namespace Part

variable {p : Part}

theorem mem_events_of_mem_commits {segment : List Stage} {commits : List Event}
    {flushed : Except SyncError Unit} {time : Nat} {rest : List Answered} {x : Event}
    (hx : x ∈ commits) : x ∈ (conducted segment commits flushed time rest).events :=
  List.mem_append_left _ (List.mem_cons_of_mem _ hx)

/-- No flush fails in an environment. -/
theorem flushed_eq_ok {segment : List Stage} {commits : List Event}
    {flushed : Except SyncError Unit} {time : Nat} {rest : List Answered}
    (ho : env.Obeyed (conducted segment commits flushed time rest).events) : flushed = .ok () := by
  refine (ho.answers ⟨.flush, flushed, time⟩ ?_).answer
  refine List.mem_filterMap.2 ⟨.asked ⟨.flush, flushed, time⟩, ?_, rfl⟩
  exact List.mem_append_right _ List.mem_cons_self

theorem Proper.publications_perm (h : p.Proper) (ho : env.Obeyed p.events)
    (hasked : ∀ a, .asked a ∈ p.events → Asks a.call) :
    (publications p.events).Perm ((committable p.segment).flatMap env.published) := by
  cases p with
  | skipped segment =>
    rw [show committable (skipped segment).segment = [] from h]
    exact .nil
  | conducted segment commits flushed time rest =>
    obtain ⟨-, hway, -⟩ := h
    have hnone : publications ((Answered.mk .flush flushed time :: rest).map .asked) = [] := by
      rw [publications, calls_map_asked, List.filterMap_eq_nil_iff]
      intro a ha
      exact (hasked a (List.mem_append_right _ (List.mem_map_of_mem ha))).sync?_eq_none
    rw [events, publications_append, hnone, List.append_nil]
    exact hway.publications_perm (ho.mono fun x hx ↦ mem_events_of_mem_commits hx)
      fun a ha ↦ hasked a (mem_events_of_mem_commits ha)

theorem Proper.reports_perm (h : p.Proper) (ho : env.Obeyed p.events) : (reports p.events).Perm
    (((committable p.segment).filter fun s ↦ !s.context.skipReport).map
      fun s ↦ (s, env.status s)) := by
  cases p with
  | skipped segment =>
    rw [show committable (skipped segment).segment = [] from h]
    exact .nil
  | conducted segment commits flushed time rest =>
    obtain ⟨-, hway, hrest⟩ := h
    obtain rfl := flushed_eq_ok ho
    have hcommits : (effects (calls commits)).filterMap Effect.report? = [] := by
      rw [List.filterMap_eq_nil_iff]
      intro x hx
      obtain ⟨t, rfl⟩ := hway.postponed_of_mem_effects hx
      rfl
    have hstatus : ∀ e ∈ endings commits, e.2.status (.ok ()) = env.status e.2.stage := by
      intro e he
      have hresult := (hway.settled (ho.mono fun x hx ↦ mem_events_of_mem_commits hx) he).2
      rw [Environment.status, ← hresult]
    rw [reports, effects_calls_conducted, List.filterMap_append, hcommits, List.nil_append,
      List.filterMap_cons_none rfl, hrest]
    refine (reported_aftermath _ _).trans ?_
    refine .trans (.of_eq ?_) ((hway.stages_perm.filter _).map _)
    rw [List.filter_map, List.map_map, List.filter_map, List.map_map]
    refine List.map_congr_left ?_
    intro e he
    exact congrArg (e.2.stage, ·) (hstatus e (List.mem_filter.1 he).1)

/-- The stages that are put back are those whose commits the environment has fail. -/
theorem Proper.mem_failed_iff (h : p.Proper) (ho : env.Obeyed p.events) :
    s ∈ p.failed ↔ s ∈ committable p.segment ∧ ¬ (env.verdict s).isOk := by
  cases p with
  | skipped segment =>
    rw [show committable (skipped segment).segment = [] from h]
    simp [failed]
  | conducted segment commits flushed time rest =>
    obtain ⟨-, hway, -⟩ := h
    obtain rfl := flushed_eq_ok ho
    have hverdict {e : Nat × Ended} (he : e ∈ endings commits) :=
      (hway.settled (ho.mono fun x hx ↦ mem_events_of_mem_commits hx) he).2
    rw [mem_failed_conducted]
    constructor
    · rintro ⟨e, he, hfailed, rfl⟩
      refine ⟨hway.stages_perm.mem_iff.1 (List.mem_map_of_mem he), fun hok ↦ ?_⟩
      rw [← hverdict he] at hok
      obtain ⟨f, hf⟩ := hfailed hok
      cases hf
    · rintro ⟨hs, hnot⟩
      obtain ⟨e, he, rfl⟩ := List.mem_map.1 (hway.stages_perm.mem_iff.2 hs)
      rw [← hverdict he] at hnot
      exact ⟨e, he, fun hok ↦ absurd hok hnot, rfl⟩

end Part

/-! ## Batches -/

section Batches

variable {size : Nat} {batch : List Stage}

theorem committable_eq_flatMap (size : Nat) (batch : List Stage) :
    committable batch = (Commit.segments size batch).flatMap committable := by
  rw [← flatten_segments size batch, committable, List.filter_flatten, flatten_segments]
  rfl

/-- What is seen of a batch that is finished is what the environment settles for its stages. -/
structure Seen (env : Environment) (batch : List Stage) (trace : List Event) : Prop where
  publications : (publications trace).Perm ((committable batch).flatMap env.published)
  reports : (reports trace).Perm (((committable batch).filter fun s ↦ !s.context.skipReport).map
    fun s ↦ (s, env.status s))
  payload : ∀ (d : Debouncer) (key : String),
    ((replay d trace).payload? key = d.payload? key ∧
      ∀ s ∈ committable batch, ¬ (env.verdict s).isOk → s.key ≠ key) ∨
    ∃ s ∈ committable batch, ¬ (env.verdict s).isOk ∧ s.key = key ∧
      (replay d trace).payload? key = some s.forRetry

theorem Run.seen (h : Run (.start size batch) trace .finished) (ho : env.Obeyed trace) :
    Seen env batch trace := by
  have hasks := (h.asks trivial).1
  obtain ⟨parts, hparts, rfl, hsegments⟩ := exists_parts h
  have hevents {p : Part} (hp : p ∈ parts) : ∀ x ∈ p.events, x ∈ parts.flatMap Part.events :=
    fun x hx ↦ List.mem_flatMap.2 ⟨p, hp, hx⟩
  have hobeyed {p : Part} (hp : p ∈ parts) : env.Obeyed p.events := ho.mono (hevents hp)
  have hbatch : committable batch = parts.flatMap fun p ↦ committable p.segment := by
    rw [committable_eq_flatMap size, ← hsegments, List.flatMap_map]
  have hfailed (s : Stage) : s ∈ parts.flatMap Part.failed ↔
      s ∈ committable batch ∧ ¬ (env.verdict s).isOk := by
    rw [hbatch, List.mem_flatMap, List.mem_flatMap, ← exists_and_right]
    refine exists_congr fun p ↦ ?_
    rw [and_assoc]
    exact and_congr_right fun hp ↦ (hparts p hp).mem_failed_iff (hobeyed hp)
  constructor
  case publications =>
    rw [publications, calls, List.filterMap_flatMap, List.filterMap_flatMap, hbatch,
      List.flatMap_assoc]
    exact .flatMap_left _ fun p hp ↦ (hparts p hp).publications_perm (hobeyed hp)
      fun a ha ↦ hasks a (hevents hp _ ha)
  case reports =>
    rw [reports, effects, calls, List.filterMap_flatMap, List.filterMap_flatMap,
      List.filterMap_flatMap, hbatch, List.filter_flatMap, List.map_flatMap]
    exact .flatMap_left _ fun p hp ↦ (hparts p hp).reports_perm (hobeyed hp)
  case payload =>
    intro d key
    rcases find?_replay hparts d key with ⟨hkept, hnot⟩ | ⟨w, hw, u, hu, hkey, hwaits⟩
    · refine .inl ⟨congrArg _ hkept, ?_⟩
      intro s hs hfails
      exact hnot s ((hfailed s).2 ⟨hs, hfails⟩)
    · obtain ⟨hs, hfails⟩ := (hfailed u).1 hu
      refine .inr ⟨u, hs, hfails, hkey, ?_⟩
      rw [Debouncer.payload?, hw, ← hwaits]
      rfl

/-! ## Single stages -/

/-- What is seen of a stage: what was published under its names, the outcomes that were reported of
it, and the payload that waits under its key in the end. -/
structure Aspect where
  published : List Configuration
  reported : List ReleaseStatus
  waits : Option Stage

/-- What is seen of a stage in a run. -/
def aspect (d : Debouncer) (trace : List Event) (s : Stage) : Aspect where
  published := (publications trace).filterMap fun x ↦
    if x.1 = s.gateway ∧ x.2.1 = s.name then some x.2.2 else none
  reported := (reports trace).filterMap fun x ↦ if x.1 = s then some x.2 else none
  waits := (replay d trace).payload? s.key

/-- What the environment has to be seen of a stage, given the payload that waited before. -/
def Environment.aspect (env : Environment) (before? : Option Stage) (s : Stage) : Aspect where
  published := (env.published s).map fun x ↦ x.2.2
  reported := if s.context.skipReport then [] else [env.status s]
  waits := if (env.verdict s).isOk then before? else some s.forRetry

theorem eq_of_perm {α : Type*} {as bs : List α} (h : as.Perm bs) (hlength : bs.length ≤ 1) :
    as = bs := by
  match bs, hlength with
  | [], _ => exact h.eq_nil
  | [b], _ => exact List.perm_singleton.1 h

theorem eq_of_key {t : Stage} (hkeys : ((committable batch).map Stage.key).Nodup)
    (hs : s ∈ committable batch) (ht : t ∈ committable batch) (h : t.key = s.key) : t = s :=
  List.inj_on_of_nodup_map hkeys ht hs h

theorem Seen.aspect (h : Seen env batch trace)
    (hkeys : ((committable batch).map Stage.key).Nodup) (hs : s ∈ committable batch)
    (d : Debouncer) : aspect d trace s = env.aspect (d.payload? s.key) s := by
  have hnodup : (committable batch).Nodup := hkeys.of_map _
  have hpublished : (Batch.aspect d trace s).published =
      (env.published s).map fun x ↦ x.2.2 := by
    refine eq_of_perm ((h.publications.filterMap _).trans (.of_eq ?_)) ?_
    · rw [List.filterMap_flatMap, flatMap_eq_of_nodup hnodup hs]
      · rw [← List.filterMap_eq_map]
        exact List.filterMap_congr fun x hx ↦ if_pos (Environment.names_of_mem_published hx)
      · intro t ht hne
        rw [List.filterMap_eq_nil_iff]
        intro x hx
        obtain ⟨hgateway, hname⟩ := Environment.names_of_mem_published hx
        -- the names of another stage make another key
        refine if_neg ?_
        rintro ⟨hgateway', hname'⟩
        have hsame : t.same s :=
          Stage.same_iff.2 ⟨hgateway.symm.trans hgateway', hname.symm.trans hname'⟩
        exact hne (eq_of_key hkeys hs ht (Stage.key_of_same hsame))
    · rw [List.length_map]
      exact env.length_published_le s
  have hreported : (Batch.aspect d trace s).reported =
      if s.context.skipReport then [] else [env.status s] := by
    refine eq_of_perm ((h.reports.filterMap _).trans (.of_eq ?_)) ?_
    · rw [List.filterMap_map, List.filterMap_filter, filterMap_eq_of_nodup hnodup hs]
      · cases s.context.skipReport <;> simp
      · intro t _ hne
        simp [hne]
    · split <;> simp
  have hwaits : (Batch.aspect d trace s).waits =
      if (env.verdict s).isOk then d.payload? s.key else some s.forRetry := by
    rcases h.payload d s.key with ⟨hkept, hnot⟩ | ⟨t, ht, hfails, hkey, hwaits⟩
    · by_cases hok : (env.verdict s).isOk
      · rw [if_pos hok]
        exact hkept
      · exact absurd rfl (hnot s hs hok)
    · obtain rfl := eq_of_key hkeys hs ht hkey
      rw [if_neg hfails]
      exact hwaits
  rw [Environment.aspect, ← hpublished, ← hreported, ← hwaits]

theorem Seen.payload?_eq (h : Seen env batch trace) (h' : Seen env batch trace')
    (hkeys : ((committable batch).map Stage.key).Nodup) (d : Debouncer) (key : String) :
    (replay d trace).payload? key = (replay d trace').payload? key := by
  rcases h.payload d key with ⟨hkept, hnot⟩ | ⟨t, ht, hfails, rfl, hwaits⟩
  · rcases h'.payload d key with ⟨hkept', -⟩ | ⟨t, ht, hfails, hkey, -⟩
    · rw [hkept, hkept']
    · exact absurd hkey (hnot t ht hfails)
  · rcases h'.payload d t.key with ⟨-, hnot⟩ | ⟨u, hu, -, hkey, hwaits'⟩
    · exact absurd rfl (hnot t ht hfails)
    · rw [hwaits, hwaits', eq_of_key hkeys ht hu hkey]

/-! ## Runs in an environment -/

/-- Calls that a job makes if the environment answers it. -/
theorem answers_callsAmong {α : Type} {j : Job α} (h : ∀ x ∈ (j.callsAmong (.fixed env.answer)
    (fun _ ↦ 0) ()).filterMap Answered.sync?, env.Ends x) :
    ∀ a ∈ j.callsAmong (.fixed env.answer) (fun _ ↦ 0) (), env.Answers a := by
  intro a ha
  refine ⟨j.answer_callsAmong env.answer _ a ha, ?_⟩
  intro x hx
  exact h x (List.mem_filterMap.2 ⟨a, ha, hx⟩)

theorem exists_reaches_of_asks {α : Type} (env : Environment) {j : Job α} (h : j.Only Asks) :
    ∃ calls a, j.Reaches calls (.done a) ∧ ∀ x ∈ calls, env.Answers x := by
  have hreaches := j.reaches_run (.fixed env.answer) (fun _ ↦ 0) ()
  refine ⟨_, _, hreaches, answers_callsAmong ?_⟩
  intro x hx
  obtain ⟨a, ha, hsync⟩ := List.mem_filterMap.1 hx
  rw [((h.of_reaches hreaches).1 a ha).sync?_eq_none] at hsync
  cases hsync

variable {segments : List (List Stage)}

theorem Environment.Obeyed.first {made noted : List Answered} {i : Nat} {e : Ended}
    (hmade : ∀ a ∈ made, env.Answers a) (hnoted : ∀ a ∈ noted, env.Answers a)
    (hcrash : e.result = .error .crashed → env.verdict e.stage = .error .crashed) :
    env.Obeyed (made.map (.called i) ++ .ended i e :: noted.map .asked) where
  answers := by
    rw [calls_append, calls_map_called, calls_ended, calls_map_asked]
    exact List.forall_mem_append.2 ⟨hmade, hnoted⟩
  crashes j s he := by
    have he : Event.ended j ⟨s, .error .crashed⟩ = .ended i e := by simpa using he
    obtain ⟨-, rfl⟩ := Event.ended.inj he
    exact hcrash rfl

/-- A commit runs to its end, or it crashes at once if the environment has it crash. -/
theorem exists_run_obeyed_first (env : Environment) (s : Stage) (i : Nat) (after : List Task)
    (ended : List (Nat × Ended)) : ∃ trace e,
    Run ⟨segments, .committing (⟨i, s, commitStage s⟩ :: after) ended⟩ trace
      ⟨segments, .committing after (ended ++ [(i, e)])⟩ ∧ env.Obeyed trace := by
  by_cases hverdict : env.verdict s = .error .crashed
  · obtain ⟨noted, e, hnoted, hanswers⟩ :=
      exists_reaches_of_asks env (join_asks s (.error .crashed))
    obtain ⟨rfl, -⟩ := join_reaches hnoted
    have hcrash : Step ⟨segments, .committing ([] ++ ⟨i, s, commitStage s⟩ :: after) ended⟩ []
        ⟨segments, .committing ([] ++ ⟨i, s, .done (.error .crashed)⟩ :: after) ended⟩ := .crash
    exact ⟨_, _, .head hcrash (run_first (.refl _) hnoted after),
      .first (List.forall_mem_nil _) hanswers fun _ ↦ hverdict⟩
  · have hmade := (commitStage s).reaches_run (.fixed env.answer) (fun _ ↦ 0) ()
    obtain ⟨hsyncs, hresult⟩ := Environment.commit_of_reaches hmade
      ((commitStage s).answer_callsAmong env.answer _)
    have hends := Environment.ends_of_not_crashed hverdict
    rw [← Environment.verdict_of_ends hends] at hresult
    obtain ⟨noted, e, hnoted, hanswers⟩ := exists_reaches_of_asks env
      (join_asks s ((commitStage s).run (.fixed env.answer) ()).1)
    obtain ⟨rfl, -⟩ := join_reaches hnoted
    refine ⟨_, _, run_first hmade hnoted after,
      .first (answers_callsAmong (hsyncs ▸ hends)) hanswers ?_⟩
    exact fun hcrashed ↦ hresult ▸ hcrashed

/-- The commits of some stages can run one after the other. -/
theorem exists_run_obeyed_commits (env : Environment) (stages : List Stage) (n : Nat)
    (ended : List (Nat × Ended)) : ∃ trace ended',
    Run ⟨segments, .committing ((stages.zipIdx n).map fun e ↦ ⟨e.2, e.1, commitStage e.1⟩) ended⟩
      trace ⟨segments, .committing [] ended'⟩ ∧ env.Obeyed trace := by
  induction stages generalizing n ended with
  | nil => exact ⟨[], ended, .refl _, .nil env⟩
  | cons s stages ih =>
    obtain ⟨before, e, hbefore, hobeyed⟩ := exists_run_obeyed_first env s n
      ((stages.zipIdx (n + 1)).map fun e ↦ ⟨e.2, e.1, commitStage e.1⟩) ended
    obtain ⟨after, ended', hafter, hobeyed'⟩ := ih (n + 1) (ended ++ [(n, e)])
    exact ⟨_, ended', hbefore.trans hafter, hobeyed.append hobeyed'⟩

theorem exists_run_obeyed_segments (env : Environment) (segments : List (List Stage)) :
    ∃ trace, Run ⟨segments, .idle⟩ trace .finished ∧ env.Obeyed trace := by
  have hbegun (segment : List Stage) : env.Obeyed [.begun segment] :=
    ⟨List.forall_mem_nil _, by simp⟩
  induction segments with
  | nil => exact ⟨[], .refl _, .nil env⟩
  | cons segment segments ih =>
    obtain ⟨rest, hrest, hobeyed⟩ := ih
    by_cases hempty : committable segment = []
    · exact ⟨_, .head (.skip hempty) hrest, (hbegun segment).append hobeyed⟩
    · obtain ⟨commits, ended, hcommits, hobeyed'⟩ :=
        exists_run_obeyed_commits env (committable segment) 0 []
      obtain ⟨calls, ⟨⟩, hcalls, hanswers⟩ := exists_reaches_of_asks env
        (endSegment_asks (ended.map Prod.snd))
      have hend : env.Obeyed (calls.map .asked) :=
        ⟨by rwa [calls_map_asked], by simp⟩
      exact ⟨_, .head (.begin hempty) (hcommits.trans (.head .finish ((run_ending hcalls).trans
        hrest))), (hbegun segment).append (hobeyed'.append (hend.append hobeyed))⟩

/-- A batch can be committed in an environment. -/
theorem exists_run_obeyed (env : Environment) (size : Nat) (batch : List Stage) :
    ∃ trace, Run (.start size batch) trace .finished ∧ env.Obeyed trace :=
  exists_run_obeyed_segments env (Commit.segments size batch)

/-! ## Two runs -/

/-- In a fixed environment a batch whose stages have different keys can be committed in segments of
any size, and whatever their size and the order of its commits, it is the same that is published and
reported and that waits in the end. A stage that is treated alike in two environments is seen alike in
any two batches that it is part of, whatever becomes of the others. -/
theorem independent_of_segments_and_others (env : Environment) (batch : List Stage) (d : Debouncer)
    (hkeys : ((committable batch).map Stage.key).Nodup) :
    (∀ size, ∃ trace, Run (.start size batch) trace .finished ∧ env.Obeyed trace) ∧
      (∀ size size' trace trace', Run (.start size batch) trace .finished → env.Obeyed trace →
        Run (.start size' batch) trace' .finished → env.Obeyed trace' →
        (publications trace).Perm (publications trace') ∧ (reports trace).Perm (reports trace') ∧
          ∀ key, (replay d trace).payload? key = (replay d trace').payload? key) ∧
      ∀ env' batch' d' size size' trace trace', ((committable batch').map Stage.key).Nodup →
        Run (.start size batch) trace .finished → env.Obeyed trace →
        Run (.start size' batch') trace' .finished → Environment.Obeyed env' trace' →
        ∀ s ∈ committable batch, s ∈ committable batch' → env.AgreeOn env' s →
          d.payload? s.key = Debouncer.payload? d' s.key → aspect d trace s = aspect d' trace' s := by
  refine ⟨fun size ↦ exists_run_obeyed env size batch, ?_, ?_⟩
  · intro size size' trace trace' h ho h' ho'
    have hseen := h.seen ho
    have hseen' := h'.seen ho'
    exact ⟨hseen.publications.trans hseen'.publications.symm,
      hseen.reports.trans hseen'.reports.symm, hseen.payload?_eq hseen' hkeys d⟩
  · intro env' batch' d' size size' trace trace' hkeys' h ho h' ho' s hs hs' hagree hwaits
    rw [(h.seen ho).aspect hkeys hs, (h'.seen ho').aspect hkeys' hs', hwaits]
    rw [Environment.aspect, Environment.aspect, hagree.published, Environment.status,
      Environment.status, hagree.verdict]

/-- The publication of one stage crashes. Alone, side by side or in a segment of its own the other
stage is published and reported as a success, and only the stage that crashes waits. -/
theorem neighbour_of_crash_unharmed :
    let a : Stage := { gateway := "gateway", name := "a" }
    let b : Stage := { gateway := "gateway", name := "b" }
    let env : Environment :=
      { get := fun kind key ↦ .error (.notFound kind key), list := fun _ _ ↦ .ok []
        convert := fun _ _ ↦ .crashed
        sync := fun _ name _ ↦ if name = "b" then none else some (.ok ()) }
    let d : Debouncer := { debounce := 1, force := 9 }
    ∃ one two alone, Run (.start 1 [a, b]) one .finished ∧ Run (.start 2 [a, b]) two .finished ∧
      Run (.start 1 [a]) alone .finished ∧
      env.Obeyed one ∧ env.Obeyed two ∧ env.Obeyed alone ∧
      (publications one).Perm (publications two) ∧ (reports one).Perm (reports two) ∧
      aspect d one a = aspect d alone a ∧
      aspect d one a = ⟨[.empty "gateway" "a"], [.succeeded], none⟩ ∧
      aspect d two b = ⟨[], [.failed "commit task panicked"], some b⟩ := by
  intro a b env d
  have hkeys : ((committable [a, b]).map Stage.key).Nodup := by decide +kernel
  have hkeys' : ((committable [a]).map Stage.key).Nodup := by decide +kernel
  obtain ⟨hruns, hsame, hstage⟩ := independent_of_segments_and_others env [a, b] d hkeys
  obtain ⟨one, hone, hone'⟩ := hruns 1
  obtain ⟨two, htwo, htwo'⟩ := hruns 2
  obtain ⟨alone, halone, halone'⟩ := (independent_of_segments_and_others env [a] d hkeys').1 1
  obtain ⟨hpublications, hreports, -⟩ := hsame 1 2 one two hone hone' htwo htwo'
  have ha : a ∈ committable [a, b] := by decide +kernel
  have hb : b ∈ committable [a, b] := by decide +kernel
  have ha' : a ∈ committable [a] := by decide +kernel
  refine ⟨one, two, alone, hone, htwo, halone, hone', htwo', halone', hpublications, hreports,
    ?_, ?_, ?_⟩
  · exact hstage env [a] d 1 1 one alone hkeys' hone hone' halone halone' a ha ha' (.refl env a) rfl
  · rw [(hone.seen hone').aspect hkeys ha]
    rfl
  · rw [(htwo.seen htwo').aspect hkeys hb]
    rfl

end Batches

end Batch

end StageRelay
