import StageRelay.Proofs.Except
import StageRelay.Proofs.Life.Pipelines
import StageRelay.Settings.Load

/-!
# Crashes

The settings that are accepted let a pipeline crash in three ways: the channel cannot be made so
large, the delay of a notice that failed is too long to be kept track of, or the tries of a notice
cannot be counted any more. There is no other way.
-/

namespace StageRelay

/-! ## Checked settings -/

theorem Settings.complain_eq_nil_iff {reason : Bool} {field message : String} :
    complain reason field message = [] ↔ reason = false := by
  cases reason <;> simp [complain]

/-- What is known of settings without complaints, as far as it matters to crashes. -/
structure Settings.Sane (s : Settings) : Prop where
  tickInterval : s.agent.tickInterval ≠ 0
  maxPendingRetries : 0 < s.agent.maxPendingRetries
  channelCapacity : 0 < s.commit.channelCapacity

theorem Settings.sane_of_complaints {s : Settings} (h : s.complaints = []) : s.Sane := by
  simp only [complaints, List.append_eq_nil_iff, complain_eq_nil_iff, decide_eq_false_iff_not] at h
  obtain ⟨⟨⟨⟨⟨⟨⟨⟨⟨-, -⟩, hticks⟩, -⟩, -⟩, -⟩, hpending⟩, -⟩, hcapacity⟩, -⟩ := h
  exact ⟨hticks, Nat.pos_of_ne_zero hpending, Nat.pos_of_ne_zero hcapacity⟩

theorem Settings.parse_sane {text : String} {s : Settings} (h : parse text = .ok s) : s.Sane := by
  unfold parse at h
  split at h
  · cases h
  · split at h
    · cases h
    · split at h
      · next hcomplaints =>
        cases h
        exact sane_of_complaints hcomplaints
      · cases h

namespace Life

variable {l l' : Life} {trace events : List Event} {w : Piece} {s : AgentSettings} {n : Notice}
  {most : UInt32}

/-! ## Lives without a crash -/

theorem Closes.not_crashed {ok : Bool} (h : Closes l w ok events l')
    (hticks : l.settings.tickInterval ≠ 0) : l'.doing ≠ .crashed := by
  cases h with
  | stalled hw hi => exact absurd hi hticks
  | _ => exact nofun

theorem Step.not_crashed (h : l.Sound) (hcan : l.settings.CanRetry)
    (hdelay : l.agent.retries.delay = l.settings.eventRetryDelay.toNat)
    (hticks : l.settings.tickInterval ≠ 0) (hd : l.doing ≠ .crashed) (hs : Step l events l') :
    l'.doing ≠ .crashed := by
  cases hs with
  | pass _ | cancel _ | subscribe _ => exact hd
  | crash hd' => exact absurd hd' (h.not_crashing hcan hdelay)
  | fail hd' => exact (abandon_closes _ _).not_crashed hticks
  | send hd' hc => exact (finish_closes _ _).not_crashed hticks
  | refuse hd' hc => exact (abandon_closes _ _).not_crashed hticks
  | _ => exact nofun

/-- If notices can be retried no life crashes. -/
theorem Run.not_crashed (hl : l.IsFresh) (hcan : l.settings.CanRetry)
    (hticks : l.settings.tickInterval ≠ 0) (hr : Run l trace l') : l'.doing ≠ .crashed := by
  induction hr with
  | refl =>
    rw [hl.doing]
    exact nofun
  | tail hr hs ih =>
    have hsettings := hr.goes.settings
    have hbooked := hr.booked hl hcan
    rw [← hsettings] at hcan hticks
    exact hs.not_crashed (hr.sound hl) hcan hbooked.delay hticks ih

/-- So no pipeline crashes whose notices can be retried. -/
theorem phase_ne_crashed {settings : Settings} {store : Store} {q : Pipeline}
    (hcan : settings.agent.CanRetry) (hticks : settings.agent.tickInterval ≠ 0)
    (h : Relation.ReflTransGen Pipeline.Evolves (Pipeline.ofSettings settings store).start q) :
    q.phase ≠ .crashed := by
  intro hcrashed
  obtain ⟨trace, l, hr, hshows⟩ := reaches_of_evolves h
  have hdoing := hshows.doing
  rw [hcrashed] at hdoing
  exact hr.not_crashed (isFresh_ofPipeline settings) hcan hticks hdoing.of_crashed

/-! ## Lives with a crash -/

/-- A notice of a secret that was tried some times. -/
def secretNotice (retries : UInt32) : Notice where
  stage := { gateway := "gateway", name := "stage" }
  kind := .secret
  name := "secret"
  retries := retries

/-- The registry may fail. -/
theorem handleCertificates_fails {retries : UInt32} (hmost : retries ≤ most) (a : AgentState) :
    ∃ a', a'.retries = a.retries ∧
      ((Agent.handleCertificates most (secretNotice retries)).run.run a).Reaches
        [⟨.get .secret (secretNotice retries).key, .error (.backend "down"), 0⟩]
        (.done (.error (.registry (.backend "down")), a')) := by
  refine ⟨{ a with directory := a.directory.touch (secretNotice retries).stage }, rfl, ?_⟩
  have hmost : ¬ most < (secretNotice retries).retries := UInt32.not_lt.2 hmost
  rw [Agent.handleCertificates, if_neg hmost]
  exact .call (.refl _)

/-- If a notice that failed cannot be queued again, a life may crash. -/
theorem exists_run_crashed {retries : UInt32} (hticks : s.tickInterval ≠ 0)
    (hmost : retries ≤ s.maxEventRetries)
    (h : ∀ a : AgentState, a.retries = (AgentState.start s true).retries →
      ∃ calls a', Agent.Reschedules (secretNotice retries) a calls .crashed a' ∧
        ∀ x ∈ calls, x.time = 0 ∧ x.call.Tells 0 x.answer) :
    ∃ trace l', Run (ofSettings s) trace l' ∧ l'.doing = .crashed := by
  have hawake := run_awake hticks
  obtain ⟨a, hretries, hfails⟩ := handleCertificates_fails hmost (AgentState.start s true)
  obtain ⟨calls, a', hcrashes, hcalls⟩ := h a hretries
  have hhandles := Agent.handle_reaches_of_failed (t := 0) rfl hfails hcrashes
  have hjob : (Task.job s.maxEventRetries (AgentState.start s true)
      (.handling 0 (secretNotice retries))).Reaches _ (.done (.ok .crashed, a')) :=
    hhandles.bind (.refl _)
  have hheard := hawake.tail (.hear rfl rfl (secretNotice retries))
  have hcrash := (hheard.trans (run_calls rfl hjob ?_)).tail (.crash rfl)
  · exact ⟨_, _, hcrash, rfl⟩
  · rw [List.append_nil]
    refine List.forall_mem_cons.2 ⟨⟨rfl, trivial⟩, List.forall_mem_cons.2 ⟨⟨rfl, trivial⟩, hcalls⟩⟩

theorem exists_run_crashed_of_delay (hticks : s.tickInterval ≠ 0) (hroom : 0 < s.maxPendingRetries)
    (hdelay : RetryQueue.delayLimit ≤ s.eventRetryDelay.toNat) :
    ∃ trace l', Run (ofSettings s) trace l' ∧ l'.doing = .crashed := by
  refine exists_run_crashed hticks UInt32.zero_le fun a ha ↦ ⟨[⟨.clock, 0, 0⟩], a, ?_, ?_⟩
  · refine .beyond (by decide) ?_
    have hfull : ¬ a.retries.capacity ≤ a.retries.entries.length := by
      rw [ha]
      exact Nat.not_le.2 hroom
    rw [RetryQueue.push, if_neg hfull, if_pos (by rw [ha]; exact hdelay)]
  · exact List.forall_mem_singleton.2 ⟨rfl, rfl⟩

theorem exists_run_crashed_of_count (hticks : s.tickInterval ≠ 0)
    (hcount : s.maxEventRetries.toNat + 1 = UInt32.size) :
    ∃ trace l', Run (ofSettings s) trace l' ∧ l'.doing = .crashed :=
  exists_run_crashed hticks UInt32.le_rfl fun a _ ↦
    ⟨[], a, .uncounted hcount, List.forall_mem_nil _⟩

end Life

/-! ## When there can be a crash -/

/-- Whether a pipeline with these settings can crash: its channel cannot be made, or the life of its
agent may come to a crash. -/
def Settings.CanCrash (s : Settings) : Prop :=
  CommitChannel.new? s.commit.channelCapacity = none ∨
    ∃ l trace l', l.IsFresh ∧ l.settings = s.agent ∧ Life.Run l trace l' ∧ l'.doing = .crashed

theorem Settings.Sane.canCrash {s : Settings} (h : s.Sane)
    (hs : CommitChannel.maxCapacity < s.commit.channelCapacity ∨
      RetryQueue.delayLimit ≤ s.agent.eventRetryDelay.toNat ∨
        s.agent.maxEventRetries.toNat + 1 = UInt32.size) : s.CanCrash := by
  rcases hs with hcapacity | hdelay | hcount
  · refine .inl (if_neg ?_)
    exact fun hle ↦ absurd hle.2 (Nat.not_le.2 hcapacity)
  · obtain ⟨trace, l', hr, hd⟩ :=
      Life.exists_run_crashed_of_delay h.tickInterval h.maxPendingRetries hdelay
    exact .inr ⟨_, trace, l', Life.isFresh_ofSettings _, rfl, hr, hd⟩
  · obtain ⟨trace, l', hr, hd⟩ := Life.exists_run_crashed_of_count h.tickInterval hcount
    exact .inr ⟨_, trace, l', Life.isFresh_ofSettings _, rfl, hr, hd⟩

theorem AgentSettings.CanRetry.of_bounds {s : AgentSettings}
    (hdelay : ¬ RetryQueue.delayLimit ≤ s.eventRetryDelay.toNat)
    (hcount : s.maxEventRetries.toNat + 1 ≠ UInt32.size) : s.CanRetry := by
  have hlt := s.maxEventRetries.toNat_lt_size
  exact ⟨by omega, Nat.lt_of_not_le hdelay⟩

theorem Settings.Sane.of_canCrash {s : Settings} (h : s.Sane) (hs : s.CanCrash) :
    CommitChannel.maxCapacity < s.commit.channelCapacity ∨
      RetryQueue.delayLimit ≤ s.agent.eventRetryDelay.toNat ∨
        s.agent.maxEventRetries.toNat + 1 = UInt32.size := by
  rcases hs with hchannel | ⟨l, trace, l', hl, hsettings, hr, hd⟩
  · left
    unfold CommitChannel.new? at hchannel
    split at hchannel
    · cases hchannel
    · next hnot => exact Nat.lt_of_not_le fun hle ↦ hnot ⟨h.channelCapacity, hle⟩
  · by_contra hnot
    rw [not_or, not_or] at hnot
    obtain ⟨-, hdelay, hcount⟩ := hnot
    have hcan : l.settings.CanRetry := hsettings ▸ .of_bounds hdelay hcount
    exact hr.not_crashed hl hcan (by rw [hsettings]; exact h.tickInterval) hd

/-- Settings that are accepted let a pipeline crash in three cases, and in no other. -/
theorem accepted_settings_crash_iff {text : String} {s : Settings}
    (h : Settings.parse text = .ok s) :
    (s.CanCrash ↔
      CommitChannel.maxCapacity < s.commit.channelCapacity ∨
        RetryQueue.delayLimit ≤ s.agent.eventRetryDelay.toNat ∨
          s.agent.maxEventRetries.toNat + 1 = UInt32.size) ∧
      (¬ s.CanCrash → ∀ store q,
        Relation.ReflTransGen Pipeline.Evolves (Pipeline.ofSettings s store).start q →
          q.phase ≠ .crashed) := by
  have hsane := Settings.parse_sane h
  refine ⟨⟨hsane.of_canCrash, hsane.canCrash⟩, fun hcannot store q hq ↦ ?_⟩
  have hnot := mt hsane.canCrash hcannot
  rw [not_or, not_or] at hnot
  exact Life.phase_ne_crashed (.of_bounds hnot.2.1 hnot.2.2) hsane.tickInterval hq

/-- The settings that hold when nothing is said let nothing crash. -/
theorem default_settings_never_crash : Settings.parse "" = .ok {} ∧ ¬ Settings.CanCrash {} ∧
    ∀ store q, Relation.ReflTransGen Pipeline.Evolves (Pipeline.ofSettings {} store).start q →
      q.phase ≠ .crashed := by
  have hparse : Settings.parse "" = .ok {} :=
    Except.toOption_eq_some_iff.1 (by decide +kernel)
  obtain ⟨hiff, hnever⟩ := accepted_settings_crash_iff hparse
  have hcannot : ¬ Settings.CanCrash {} := fun hcrash ↦ absurd (hiff.1 hcrash) (by decide)
  exact ⟨hparse, hcannot, hnever hcannot⟩

/-- A delay of more than two years is accepted, and the first notice of a secret that fails is a
crash. -/
theorem accepted_delay_crashes :
    let text := "[agent]\nevent_retry_delay_ms = 68719476736"
    let settings : Settings := { agent := { eventRetryDelay := 68719476736 } }
    let p := Pipeline.ofSettings settings {}
    let failing := { p with services := { p.services with faults := { get := ["*"] } } }
    Settings.parse text = .ok settings ∧
      (failing.handle (Life.secretNotice 0) none).phase = .crashed := by
  intro text settings p failing
  have heval : (Settings.parse text).toOption = some settings ∧
      (failing.handle (Life.secretNotice 0) none).phase = .crashed := by
    decide +kernel
  exact ⟨Except.toOption_eq_some_iff.1 heval.1, heval.2⟩

end StageRelay
