import StageRelay.Proofs.Commit.Calls
import StageRelay.Proofs.Publishing.Downstream
import StageRelay.Proofs.Work.Alone

/-!
# What commits do for a stage

Seen from one stage, a commit either brings what the registry holds for the stage one step closer to
what is published, or puts the stage back among those that wait. As long as what is held for the
stage stays the same, it does not matter what happens between two calls: commits of other stages
publish nothing for this one, and another commit of this stage publishes the same.
-/

namespace StageRelay

namespace Publishing

/-! ## Calls -/

/-- How far the configuration of a stage has come. -/
inductive Mark where
  | fresh
  /-- It waits for a flush. -/
  | kept
  | published
deriving DecidableEq

/-- What an answered call makes of the mark of a stage. -/
def Mark.after (s : Stage) (m : Mark) : {β : Type} → Call β → β → Mark
  | _, .sync gateway stage _, .ok () => if s.gateway = gateway ∧ s.name = stage then .kept else m
  | _, .flush, .ok () => if m = .kept then .published else m
  | _, .flush, .error _ => if m = .kept then .fresh else m
  | _, _, _ => m

/-- What a mark says, if the registry holds `κ` for a stage. -/
def Mark.Holds (s : Stage) (κ : Content) (d : Downstream) : Mark → Prop
  | .fresh => True
  | .kept => ∃ c, κ.configuration s = .ok c ∧ d.kept? s = some c
  | .published => κ.configuration s = .ok (d.current s) ∧
    ∀ c, d.kept? s = some c → κ.configuration s = .ok c

/-- Whether a call may be made while the registry holds `κ` for a stage. -/
def Sound (s : Stage) (κ : Content) {β : Type} : Call β → Prop
  | .sync gateway stage c => s.gateway = gateway → s.name = stage → κ.configuration s = .ok c
  | .watch => False
  | .prune _ => False
  | .drain => False
  | _ => True

/-- Whether a call puts a stage back. -/
def PutsBack (s : Stage) {β : Type} : Call β → Prop
  | .postpone t => t.same s
  | _ => False

/-- The calls of a committer, seen from a stage for which the registry holds `κ`. Once the stage is
put back nothing more is asked. -/
def commits (s : Stage) (κ : Content) : CallSpec Mark where
  needs c Q m := PutsBack s c ∨ Sound s κ c ∧ ∀ services : Services,
    services.registry.store.content s = κ →
      Q (services.answer c).1 (m.after s c (services.answer c).1)
  mono h := Or.imp_right (And.imp_right fun hc services hs ↦ h _ _ (hc services hs))

section Marks

variable {s : Stage} {κ : Content} {services : Services} {m : Mark}

/-- What is right stays right when a commit of some stage publishes what it should. -/
theorem Mark.Holds.sync {gateway stage : String} {config : Configuration}
    (h : m.Holds s κ services.downstream) (hc : Sound s κ (.sync gateway stage config)) :
    m.Holds s κ (services.answer (.sync gateway stage config)).2.downstream := by
  simp only [Services.answer]
  split
  · have hkept := Downstream.kept?_after_sync (d := services.downstream) (s := s) gateway stage config
    rw [Services.downstream_log]
    by_cases hnames : s.gateway = gateway ∧ s.name = stage
    · have hconf := hc hnames.1 hnames.2
      rw [if_pos hnames] at hkept
      cases m with
      | fresh => trivial
      | kept => exact ⟨config, hconf, hkept⟩
      | published =>
        refine ⟨h.1, ?_⟩
        intro c hc
        rw [hkept] at hc
        rwa [← Option.some.inj hc]
    · rw [if_neg hnames] at hkept
      cases m with
      | fresh => trivial
      | kept => rwa [Mark.Holds, hkept]
      | published => rwa [Mark.Holds, hkept]
  · exact h

/-- The marks are right about the services. -/
theorem Mark.Holds.after {β : Type} {c : Call β} (h : m.Holds s κ services.downstream)
    (hc : Sound s κ c) :
    (m.after s c (services.answer c).1).Holds s κ (services.answer c).2.downstream := by
  cases c with
  | sync gateway stage config =>
    have hsync := h.sync hc
    cases haccept : services.accept gateway stage with
    | error e =>
      simp only [Services.answer, haccept] at hsync ⊢
      exact hsync
    | ok _ =>
      simp only [Services.answer, haccept, Mark.after] at hsync ⊢
      split
      · next hnames =>
        refine ⟨config, hc hnames.1 hnames.2, ?_⟩
        rw [Services.downstream_log, Downstream.kept?_after_sync, if_pos hnames]
      · exact hsync
  | flush =>
    simp only [Services.answer, Services.flush]
    split
    · cases m with
      | fresh => trivial
      | kept => trivial
      | published => exact ⟨h.1, nofun⟩
    · cases m with
      | fresh => trivial
      | kept =>
        obtain ⟨c, hconf, hkept⟩ := h
        refine ⟨?_, nofun⟩
        rw [Services.downstream_log, Downstream.current_after_flush, hkept]
        exact hconf
      | published =>
        obtain ⟨hconf, hkept⟩ := h
        refine ⟨?_, nofun⟩
        rw [Services.downstream_log, Downstream.current_after_flush]
        cases hk : services.downstream.kept? s with
        | none => exact hconf
        | some c => exact hkept c hk
  | watch => exact hc.elim
  | prune existing => exact hc.elim
  | drain => exact hc.elim
  | report t status => cases m <;> exact h
  | _ => exact h

end Marks

/-! ## Commits -/

section Commits

open Commit

variable {s t : Stage} {κ : Content} {m : Mark}

/-- Calls that only read leave the mark as it is. -/
theorem needs_of_reads {β : Type} {c : Call β} {Q : β → Mark → Prop} (hc : Sound s κ c)
    (hm : ∀ b, m.after s c b = m)
    (h : ∀ services : Services, services.registry.store.content s = κ →
      Q (services.answer c).1 m) : (commits s κ).needs c Q m := by
  refine .inr ⟨hc, ?_⟩
  intro services hs
  rw [hm]
  exact h services hs

theorem list_spec {Q : Except RegistryError (List Resource) → Mark → Prop} (ht : t.same s)
    (kind : Kind) (hok : Q (.ok (κ.listed kind)) m) (herror : ∀ e, Q (.error e) m) :
    (commits s κ).needs (.list kind t) Q m := by
  refine needs_of_reads trivial (fun _ ↦ rfl) ?_
  intro services hs
  have hlist : services.registry.store.list kind t = κ.listed kind := by
    rw [← hs, ← Store.content_of_same ht]
    rfl
  simp only [Services.answer]
  split
  · exact herror _
  · rw [hlist]
    exact hok

/-- Whether the object of a stage is there tells whether its configuration is the empty one. -/
theorem get_spec {Q : Except RegistryError Resource → Mark → Prop} (ht : t.same s)
    (hok : ∀ r, κ.object? = some r → Q (.ok r) m)
    (hnone : ∀ kind key, κ.object? = none → Q (.error (.notFound kind key)) m)
    (hbackend : ∀ reason, Q (.error (.backend reason)) m) :
    (commits s κ).needs (.get .stage ⟨t, t.name⟩) Q m := by
  refine needs_of_reads trivial (fun _ ↦ rfl) ?_
  intro services hs
  have hobject : services.registry.store.get? .stage ⟨t, t.name⟩ = κ.object? := by
    rw [← hs, ← Store.content_of_same ht]
    rfl
  simp only [Services.answer, Registry.get, hobject]
  split
  · exact hbackend _
  · split
    · next r hr => exact hok r hr
    · next hr => exact hnone _ _ hr

theorem convert_spec {Q : Converted → Mark → Prop} {rs : StageResources}
    (hok : ∀ c, rs.convert t = .ok c → Q (.configuration c) m) (hrefused : ∀ e, Q (.refused e) m)
    (hcrashed : Q .crashed m) : (commits s κ).needs (.convert t rs) Q m := by
  refine needs_of_reads trivial (fun _ ↦ rfl) ?_
  intro services _
  simp only [Services.answer, Services.convert]
  split
  · exact hcrashed
  · split
    · next hc => exact hok _ hc
    · exact hrefused _

/-- A commit collects what is held, unless the registry fails. -/
theorem resourcesOf_spec (ht : t.same s) (kinds : List Kind) (all : StageResources) :
    Job.wpe (commits s κ)
      (kinds.foldlM (fun all kind ↦ do
        match ← attempt (.list kind t) with
        | .ok listed => return all.extend kind listed
        | .error e => throw (.error (.registry e))) all)
      (fun rs m' ↦ m' = m ∧ rs = kinds.foldl (fun all kind ↦ all.extend kind (κ.listed kind)) all)
      (fun e m' ↦ m' = m ∧ ∃ reason, e = .error (.registry reason)) m := by
  induction kinds generalizing all with
  | nil => exact ⟨rfl, rfl⟩
  | cons kind kinds ih =>
    rw [List.foldlM_cons, Job.wpe_bind, Job.wpe_bind, attempt, Job.wpe_lift, Job.wp_ask]
    refine list_spec ht kind ?_ ?_
    · rw [Job.wpe_pure]
      exact ih _
    · intro e
      rw [Job.wpe_throw]
      exact ⟨rfl, e, rfl⟩

theorem build_spec (ht : t.same s) :
    Job.wpe (commits s κ) (build t) (fun c m' ↦ m' = m ∧ κ.configuration s = .ok c)
      (fun e m' ↦ m' = m ∧ ∀ t', e = .error (.stageNotFound t') →
        κ.configuration s = .ok (.empty s.gateway s.name)) m := by
  rw [build, Job.wpe_bind, attempt, Job.wpe_lift, Job.wp_ask]
  refine get_spec ht (fun r hr ↦ ?_) (fun kind key hr ↦ ?_) fun reason ↦ ?_
  · have hconfiguration : κ.configuration s = κ.resources.convert t := by
      rw [← Content.configuration_of_same ht, Content.configuration, hr]
    simp only [Job.wpe_bind]
    refine Job.wpe_mono ?_ ?_ (resourcesOf_spec ht Kind.stageScoped {})
    · rintro rs _ ⟨rfl, rfl⟩
      rw [attempt, Job.wpe_lift, Job.wp_ask]
      refine convert_spec (fun c hc ↦ ?_) (fun e ↦ ?_) ?_
      · rw [Job.wpe_pure]
        exact ⟨rfl, hconfiguration.trans hc⟩
      · rw [Job.wpe_throw]
        refine ⟨rfl, ?_⟩
        rintro t' ⟨⟩
      · rw [Job.wpe_throw]
        refine ⟨rfl, ?_⟩
        rintro t' ⟨⟩
    · rintro e _ ⟨rfl, reason, rfl⟩
      refine ⟨rfl, ?_⟩
      rintro t' ⟨⟩
  · refine ⟨rfl, fun _ _ ↦ ?_⟩
    rw [Content.configuration, hr]
  · refine ⟨rfl, ?_⟩
    rintro t' ⟨⟩

/-- A job that only reads does among services what it needs while nothing changes. -/
theorem run_of_reads {α : Type} {j : Job α} {Q : α → Mark → Prop} {services : Services}
    (hj : j.Only Reads) (h : j.wp (commits s κ) Q m)
    (hs : services.registry.store.content s = κ) :
    ∃ m', Q (j.run Services.host services).1 m' := by
  induction j generalizing services m with
  | done a => exact ⟨m, h⟩
  | call c next ih =>
    have hnot : ¬ PutsBack s c := by
      have hc := hj.1
      cases c <;> first | exact id | exact hc.elim
    obtain ⟨-, hnext⟩ := h.resolve_left hnot
    have hcontent : (services.answer c).2.registry.store.content s = κ := by
      rw [Services.store_answer, hs]
    exact ih _ (hj.2 _) (hnext services hs) hcontent

/-- What is built among services is what their registry holds. -/
theorem configuration_of_run_build {services : Services} {c : Configuration}
    (h : ((build s).run.run Services.host services).1 = .ok c) :
    services.registry.store.configuration s = .ok c := by
  obtain ⟨m, hm⟩ := run_of_reads (build_only s) (build_spec (m := .fresh) (Stage.same_refl s)) rfl
  rw [h] at hm
  exact hm.2

theorem toPublish_spec (ht : t.same s) :
    (toPublish t).wp (commits s κ)
      (fun r m' ↦ m' = m ∧ ∀ c outcome, r = .ok (c, outcome) → κ.configuration s = .ok c) m := by
  rw [toPublish, Job.bind_eq, Job.wp_bind]
  refine Job.wp_mono ?_ (build_spec ht)
  rintro (e | c) m' h
  · obtain ⟨rfl, hgone⟩ := h
    split
    · next heq => cases heq
    · next t' heq =>
      refine ⟨rfl, ?_⟩
      rintro c outcome ⟨⟩
      obtain ⟨hg, hn⟩ := Stage.same_iff.1 ht
      rw [hg, hn]
      exact hgone t' (Except.error.inj heq)
    · refine ⟨rfl, ?_⟩
      rintro c outcome ⟨⟩
  · obtain ⟨rfl, hc⟩ := h
    refine ⟨rfl, ?_⟩
    rintro c' outcome ⟨⟩
    exact hc

/-- What is left of a commit of a stage that has not been put back. -/
def Ends (r : Except CommitFailure Unit) (m : Mark) : Prop :=
  match r with
  | .ok () => m = .kept
  | .error .crashed => True
  | .error (.error _) => False

/-- The configuration of a stage that is committed is kept, unless the stage is put back or the
commit crashes. -/
theorem commitStage_spec (ht : t.same s) : (commitStage t).wp (commits s κ) Ends m := by
  have hfail (e : CommitError) (m : Mark) : (fail t e).wp (commits s κ) Ends m := by
    refine needs_of_reads trivial (fun _ ↦ rfl) fun _ _ ↦ ?_
    exact .inl ht
  rw [commitStage, Job.bind_eq, Job.wp_bind]
  refine Job.wp_mono ?_ (toPublish_spec ht)
  rintro (e | ⟨c, outcome⟩) m' ⟨rfl, hc⟩
  · cases e with
    | error e => exact hfail e m'
    | crashed => trivial
  · refine .inr ⟨fun _ _ ↦ hc c outcome rfl, ?_⟩
    intro services _
    cases (services.answer (.sync t.gateway t.name c)).1 with
    | error e => exact hfail (.sync e) _
    | ok _ =>
      refine needs_of_reads trivial (fun _ ↦ rfl) fun _ _ ↦ ?_
      obtain ⟨hg, hn⟩ := Stage.same_iff.1 ht
      exact if_pos ⟨hg.symm, hn.symm⟩

/-! ## Ends of segments -/

theorem report_spec (status : ReleaseStatus) :
    (report t status).wp (commits s κ) (fun _ m' ↦ m' = m) m := by
  unfold report
  split
  · rfl
  · exact needs_of_reads trivial (fun _ ↦ rfl) fun _ _ ↦ rfl

/-- A stage that is among those that are put back is put back. -/
theorem putBack_spec {ts : List Stage} (hs : ∃ t ∈ ts, t.same s) (status : ReleaseStatus) :
    (ts.forM fun t ↦ do
      requeue t
      report t status).wp (commits s κ) (fun _ _ ↦ False) m := by
  induction ts with
  | nil => simp at hs
  | cons t ts ih =>
    rw [List.forM, Job.bind_eq, Job.wp_bind, Job.bind_eq, Job.wp_bind, requeue, Job.wp_ask]
    by_cases ht : t.same s
    · exact .inl ht
    · refine needs_of_reads trivial (fun _ ↦ rfl) fun _ _ ↦ ?_
      refine Job.wp_mono ?_ (report_spec status)
      rintro _ _ rfl
      exact ih (by simpa [ht] using hs)

theorem flush_spec {ts : List Stage} (hs : ∃ t ∈ ts, t.same s) :
    (flush ts).wp (commits s κ) (fun _ m' ↦ m' = .published) .kept := by
  rw [flush, Job.bind_eq, Job.wp_bind, Job.wp_ask]
  refine .inr ⟨trivial, ?_⟩
  intro services _
  cases (services.answer .flush).1 with
  | ok _ =>
    rw [Job.bind_eq, Job.wp_bind]
    refine needs_of_reads trivial (fun _ ↦ rfl) fun _ _ ↦ ?_
    refine Job.wp_forM ?_ rfl
    intro t _ m hm
    rw [← hm]
    exact report_spec _
  | error e =>
    simp only [Job.bind_eq, Job.wp_bind, Job.note, Job.wp_ask]
    refine needs_of_reads trivial (fun _ ↦ rfl) fun _ _ ↦ ?_
    exact Job.wp_mono (fun _ _ ↦ False.elim) (putBack_spec hs _)

/-- At the end of a segment the configurations that are kept are published, or their stages are put
back. -/
theorem endSegment_spec {ended : List Ended} (hs : ∃ e ∈ ended, e.stage.same s ∧ e.isOk) :
    (endSegment ended).wp (commits s κ) (fun _ m' ↦ m' = .published) .kept := by
  have hcommitted : ∃ t ∈ (ended.filter Ended.isOk).map Ended.stage, t.same s := by
    obtain ⟨e, he, hsame, hok⟩ := hs
    exact ⟨_, List.mem_map_of_mem (List.mem_filter.2 ⟨he, hok⟩), hsame⟩
  rw [endSegment, Job.bind_eq, Job.wp_bind]
  refine Job.wp_mono ?_ (flush_spec hcommitted)
  rintro _ _ rfl
  refine Job.wp_forM ?_ rfl
  intro e _ m hm
  rw [← hm]
  split
  · rfl
  · exact report_spec _

/-! ## Calls of other stages -/

/-- The calls that a commit of a stage makes. -/
def OfStage (t : Stage) {β : Type} : Call β → Prop
  | .get _ _ => True
  | .list _ _ => True
  | .convert _ _ => True
  | .note _ => True
  | .sync gateway stage _ => gateway = t.gateway ∧ stage = t.name
  | .postpone u => u.same t
  | _ => False

/-- The calls that are made at the end of a segment. -/
def OfEnd {β : Type} : Call β → Prop
  | .flush => True
  | .report _ _ => True
  | .note _ => True
  | .postpone u => u.Named
  | _ => False

/-- Commits of other stages publish nothing for a stage. -/
theorem OfStage.sound {β : Type} {c : Call β} (h : OfStage t c) (hts : ¬ t.same s) :
    Sound s κ c := by
  cases c with
  | sync gateway stage config =>
    intro hg hn
    exact absurd (Stage.same_iff.2 ⟨h.1.symm.trans hg.symm, h.2.symm.trans hn.symm⟩) hts
  | watch => exact h
  | prune existing => exact h
  | drain => exact h
  | _ => trivial

theorem Mark.Holds.ofStage {β : Type} {c : Call β} {services : Services}
    (h : m.Holds s κ services.downstream) (hc : OfStage t c) (hsound : Sound s κ c) :
    m.Holds s κ (services.answer c).2.downstream := by
  cases c with
  | sync gateway stage config => exact h.sync hsound
  | flush => exact hc.elim
  | watch => exact hc.elim
  | prune existing => exact hc.elim
  | report u status => exact hc.elim
  | drain => exact hc.elim
  | _ => exact h

theorem OfEnd.sound {β : Type} {c : Call β} (h : OfEnd c) : Sound s κ c := by
  cases c <;> first | exact h.elim | trivial

theorem OfEnd.published_after {β : Type} {c : Call β} (h : OfEnd c) (b : β) :
    Mark.published.after s c b = .published := by
  cases c with
  | flush => cases b <;> rfl
  | sync gateway stage config => exact h.elim
  | _ => rfl

theorem commitStage_only (t : Stage) : (commitStage t).Only (OfStage t) := by
  refine (Commit.commitStage_only t).mono ?_
  intro β c hc
  cases c with
  | postpone u =>
    obtain rfl : u = t.forRetry := hc
    exact Stage.same_refl t
  | sync gateway stage config => exact hc
  | flush => exact hc.elim
  | watch => exact hc.elim
  | stages => exact hc.elim
  | prune existing => exact hc.elim
  | report u status => exact hc.elim
  | drain => exact hc.elim
  | clock => exact hc.elim
  | _ => trivial

theorem join_only (t : Stage) (r : Except CommitFailure Unit) : (join t r).Only (OfStage t) := by
  unfold join
  split
  · exact ⟨trivial, fun _ ↦ ⟨Stage.same_refl t, fun _ ↦ trivial⟩⟩
  · trivial

theorem endSegment_only {ended : List Ended} (h : ∀ e ∈ ended, e.stage.Named) :
    (endSegment ended).Only OfEnd := by
  have hreport (t : Stage) (status : ReleaseStatus) : (report t status).Only OfEnd := by
    unfold report
    split
    · trivial
    · exact Job.only_ask trivial
  have hnamed : ∀ t ∈ (ended.filter Ended.isOk).map Ended.stage, t.Named := by
    intro t ht
    obtain ⟨e, he, rfl⟩ := List.mem_map.1 ht
    exact h e (List.mem_filter.1 he).1
  refine Job.only_bind (Job.only_bind (Job.only_ask trivial) ?_) fun _ ↦ ?_
  · rintro (e | -)
    · refine Job.only_bind (Job.only_ask trivial) fun _ ↦ Job.only_forM fun t ht ↦ ?_
      have hretry : t.forRetry.Named := (hnamed t ht).of_same (Stage.same_refl t)
      exact Job.only_bind (Job.only_ask hretry) fun _ ↦ hreport t _
    · refine Job.only_bind (Job.only_ask trivial) fun _ ↦ Job.only_forM fun t _ ↦ ?_
      exact hreport t _
  · refine Job.only_forM ?_
    intro e _
    split
    · trivial
    · exact hreport _ _

end Commits

end Publishing

end StageRelay
