import StageRelay.Proofs.Life.Retries

/-!
# Attempts at notices

Each attempt at a notice has one more try than the one before, so only so many of them ask the
registry. Of each attempt that is over at most one outcome was counted, and it says how the attempt
ended.
-/

namespace StageRelay

/-- Whether the registry is asked. -/
def Call.asksRegistry {β : Type} : Call β → Bool
  | .get _ _ | .list _ _ | .stages => true
  | _ => false

namespace Agent

variable {most : UInt32} {n : Notice}

/-- A notice that was tried too often is only counted. -/
theorem handle_spares (hn : n.concernsCertificates = true) (hmost : most < n.retries)
    (a : AgentState) : ((handle most n).run a).Only fun c ↦ c.asksRegistry = false := by
  obtain ⟨hkind, hcares⟩ :
      n.kind ≠ .gatewayInstance ∧ (n.isAll || n.kind.isCertificate) = true := by
    simpa [Notice.concernsCertificates] using hn
  rw [run_handle_eq, if_neg hkind, if_pos hcares, handleCertificates, if_pos hmost]
  exact ⟨rfl, fun _ ↦ ⟨rfl, fun _ ↦ trivial⟩⟩

end Agent

namespace Life

variable {l l' : Life} {trace events : List Event} {w w' : Piece} {f : Finished} {s : AgentSettings}
  {most : UInt32} {n : Notice} {number : Nat} {a a' : AgentState} {acts : List Act}
  {batch : List Stage} {job : Rest} {ws : List Piece}

/-! ## Asking the registry -/

/-- Whether the registry is asked. -/
def Act.asksRegistry : Act → Bool
  | .called x => x.call.asksRegistry
  | .sent _ _ _ => false

/-- Whether the registry is asked in a piece of work. -/
def Piece.asksRegistry (w : Piece) : Bool :=
  w.acts.any Act.asksRegistry

/-- The registry is not asked about a notice that was tried too often. -/
def Piece.Spares (most : UInt32) (w : Piece) : Prop :=
  ∀ number n, w.task = .handling number n → n.concernsCertificates = true → most < n.retries →
    w.asksRegistry = false

theorem Underway.spares (h : Underway most (.handling number n) a acts a' job)
    (hn : n.concernsCertificates = true) (hmost : most < n.retries) :
    acts.any Act.asksRegistry = false := by
  cases h with
  | @first calls job h =>
    have honly : (Task.job most a (.handling number n)).Only fun c ↦ c.asksRegistry = false :=
      Job.only_bind (Agent.handle_spares hn hmost a) fun _ ↦ trivial
    refine List.any_eq_false.2 (List.forall_mem_map.2 fun x hx ↦ ?_)
    exact Bool.eq_false_iff.1 ((honly.of_reaches h).1 x hx)
  | again htask hb h h' =>
    cases htask
    generalize hhandled : Agent.Handled.batch _ = handled at h
    cases job_handling_reaches h with
    | succeeded _ hle _ => exact absurd hmost (UInt32.not_lt.2 hle)
    | failed _ hle _ _ => exact absurd hmost (UInt32.not_lt.2 hle)
    | passed _ _ => cases hhandled; exact absurd rfl hb
    | exhausted _ _ => cases hhandled; exact absurd rfl hb

theorem spares_add (h : w.Spares most) (batch : List Stage) (accepted : Bool) (time : Nat) :
    (w.add (delivery batch accepted time)).Spares most := by
  intro number n hw hn hmost
  have hsent : (delivery batch accepted time).any Act.asksRegistry = false := by
    unfold delivery
    split <;> rfl
  show (w.acts ++ _).any _ = false
  rw [List.any_append, hsent, Bool.or_false]
  exact h number n hw hn hmost

theorem Underway.piece_spares (h : Underway most w.task a w.acts a' job) : w.Spares most := by
  intro number n hw hn hmost
  rw [hw] at h
  exact h.spares hn hmost

theorem Went.spares (h : Went most f) : f.piece.Spares most := by
  cases h with
  | failed h => exact h.piece_spares
  | sent h => exact spares_add h.piece_spares _ _ _
  | refused _ h => exact spares_add h.piece_spares _ _ _

theorem Sound.spares (h : l.Sound) (hw : l.desk.piece? = some w) :
    w.Spares l.settings.maxEventRetries := by
  unfold desk at hw
  cases hd : l.doing with
  | working v job =>
    obtain ⟨-, a, h⟩ := (sound_working hd).1 h
    rw [hd, Doing.desk] at hw
    split at hw <;> cases hw
    exact h.piece_spares
  | sending v batch =>
    obtain ⟨-, a, a', h⟩ := (sound_sending hd).1 h
    rw [hd, Doing.desk] at hw
    split at hw <;> cases hw
    exact h.piece_spares
  | _ =>
    rw [hd] at hw
    cases hw

theorem mem_concluded (hw : w ∈ concluded trace) :
    ∃ f, .finished f ∈ trace ∧ f.piece = w := by
  obtain ⟨e, he, hw⟩ := List.mem_filterMap.1 hw
  cases e with
  | finished f =>
    simp only [Event.handled?, Option.ite_none_right_eq_some, Option.some.injEq] at hw
    exact ⟨f, he, hw.2⟩
  | _ => cases hw

theorem Run.spares (hl : l.IsFresh) (hr : Run l trace l') :
    ∀ w ∈ concluded trace ++ l'.desk.piece?.toList, w.Spares l.settings.maxEventRetries := by
  refine List.forall_mem_append.2 ⟨fun w hw ↦ ?_, fun w hw ↦ ?_⟩
  · obtain ⟨f, hf, rfl⟩ := mem_concluded hw
    exact (hr.went hl hf).2.spares
  · rw [← hr.goes.settings]
    exact (hr.sound hl).spares (Option.mem_toList.1 hw)

/-! ## Counting tries -/

theorem Leads.retries {task : Task} {time : Nat} (h : Leads s w task time)
    (hw : w.task = .handling number n) : n.retries ≤ s.maxEventRetries ∧
      task = .handling number { n with retries := n.retries + 1 } ∧
      (n.retries + 1).toNat = n.retries.toNat + 1 := by
  obtain ⟨number', n', hw', hmost, hlt, htask⟩ := h.task
  rw [hw] at hw'
  cases hw'
  refine ⟨hmost, htask, ?_⟩
  rw [UInt32.toNat_add]
  exact Nat.mod_eq_of_lt hlt

/-- With each later attempt there is one more try. -/
theorem Linked.numbered (h : Linked s (w :: ws)) (hw : w.task = .handling number n) {k : Nat}
    (hk : (w :: ws)[k]? = some w') : ∃ retries : UInt32,
      w'.task = .handling number { n with retries } ∧ retries.toNat = n.retries.toNat + k := by
  induction ws generalizing w n k with
  | nil =>
    cases k with
    | zero =>
      cases hk
      exact ⟨n.retries, hw, rfl⟩
    | succ k => simp at hk
  | cons v ws ih =>
    cases k with
    | zero =>
      cases hk
      exact ⟨n.retries, hw, rfl⟩
    | succ k =>
      obtain ⟨hleads, hrest⟩ := List.isChain_cons_cons.1 h
      obtain ⟨-, hv, hone⟩ := hleads.retries hw
      obtain ⟨retries, hw', hretries⟩ := ih hrest hv hk
      refine ⟨retries, hw', ?_⟩
      dsimp only at hretries
      omega

/-- Of the attempts at a notice only so many ask the registry. -/
theorem Linked.few (h : Linked s (w :: ws)) (hw : w.task = .handling number n)
    (hn : n.concernsCertificates = true) (hspares : ∀ v ∈ w :: ws, v.Spares s.maxEventRetries) :
    (w :: ws).countP Piece.asksRegistry ≤ s.maxEventRetries.toNat + 1 - n.retries.toNat := by
  induction ws generalizing w n with
  | nil =>
    rw [List.countP_singleton]
    by_cases hmost : s.maxEventRetries < n.retries
    · rw [hspares w (List.mem_cons_self ..) number n hw hn hmost]
      exact Nat.zero_le _
    · have hle := UInt32.le_iff_toNat_le.1 (UInt32.not_lt.1 hmost)
      split <;> omega
  | cons v ws ih =>
    -- the first attempt asks once at most, and those after it have one try less
    obtain ⟨hleads, hrest⟩ := List.isChain_cons_cons.1 h
    obtain ⟨hmost, hv, hone⟩ := hleads.retries hw
    have hle := UInt32.le_iff_toNat_le.1 hmost
    have hcount := ih hrest hv hn fun u hu ↦ hspares u (List.mem_cons_of_mem w hu)
    rw [List.countP_cons]
    dsimp only at hcount
    split <;> omega

/-! ## The attempts that were begun -/

/-- A piece of work as it was begun. -/
def Piece.start (w : Piece) : Piece :=
  { w with acts := [] }

/-- What is begun is under way until it is over. -/
theorem Minds.begun (hm : Minds l events l') :
    l.desk.piece?.toList.map Piece.start ++ events.filterMap Event.taken? =
      (concluded events ++ l'.desk.piece?.toList).map Piece.start := by
  cases hm with
  | aside hdesk _ _ _ hevents =>
    rw [concluded, List.filterMap_eq_nil_iff.2 fun e he ↦ (hevents e he).handled,
      List.filterMap_eq_nil_iff.2 fun e he ↦ (hevents e he).taken, hdesk, List.append_nil]
    rfl
  | @hears n doing hdesk hd =>
    rw [hdesk, desk, hd]
    rfl
  | @retries i number e doing hdesk he hn ht hd =>
    rw [hdesk, desk, hd]
    rfl
  | @calls w x doing hdesk hd =>
    rw [hdesk, desk, hd]
    rfl
  | @settles w number n batch agent doing hdesk hw hh htimely hd =>
    rw [hdesk, desk, enter, hd]
    rfl
  | @concludes w number n batch q q' hdesk hw hh =>
    rw [hdesk, concluded_of_acts (by rw [Piece.add, hw]; rfl), List.filterMap_append,
      List.filterMap_eq_nil_iff.2 fun e he ↦ (ignores_acts _ e he).taken]
    rfl
  | @again w number n batch q q' doing hdesk hw hb hh hd =>
    rw [hdesk, desk, hd]
    rfl

/-- Whatever was begun about notices is over, or is under way. -/
theorem Run.begun (hl : l.IsFresh) (hcan : l.settings.CanRetry) (hr : Run l trace l') :
    trace.filterMap Event.taken? =
      (concluded trace ++ l'.desk.piece?.toList).map Piece.start := by
  induction hr with
  | refl =>
    rw [desk, hl.doing]
    rfl
  | @tail l' l'' trace events hr hs ih =>
    have hminds := hr.minds hl hcan hs
    rw [List.filterMap_append, ih, List.map_append, List.append_assoc, hminds.begun,
      concluded_append, ← List.map_append, List.append_assoc]

/-! ## How attempts end -/

/-- How an attempt that is over went, and what was counted of it. -/
inductive Ends (most : UInt32) (n : Notice) (acts : List Act) : Prop
  | exhausted (hmost : most < n.retries) (ho : outcomes acts = [.exhausted])
  | succeeded {before : List Act} {batch : List Stage} {time : Nat} (hmost : n.retries ≤ most)
    (h : Begins most n (.ok batch) before) (hacts : acts = before ++ delivery batch true time)
    (ho : outcomes acts = [])
  | failed {before after : List Act} {e : AgentError} (hmost : n.retries ≤ most)
    (h : Begins most n (.error e) before) (hacts : acts = before ++ after)
    (ho : outcomes acts = [.scheduled] ∨ outcomes acts = [.dropped])
  | refused {before after : List Act} {batch : List Stage} {time : Nat} (hmost : n.retries ≤ most)
    (h : Begins most n (.ok batch) before) (hb : batch ≠ [])
    (hacts : acts = before ++ .sent batch false time :: after)
    (ho : outcomes acts = [.scheduled] ∨ outcomes acts = [.dropped])

theorem Requeues.outcomes_eq {q q' : RetryQueue} (h : Requeues n q acts q') :
    outcomes acts = [.scheduled] ∨ outcomes acts = [.dropped] := by
  cases h with
  | scheduled _ _ => exact .inl rfl
  | dropped => exact .inr rfl

theorem Handles.ends {q q' : RetryQueue} (h : Handles most n q acts batch q')
    (hn : n.concernsCertificates = true) (time : Nat) :
    Ends most n (acts ++ delivery batch true time) := by
  have hnil : delivery [] true time = [] := rfl
  cases h with
  | passed hn' _ =>
    rw [hn] at hn'
    cases hn'
  | exhausted _ hmost ho =>
    rw [hnil, List.append_nil]
    exact .exhausted hmost ho
  | succeeded _ hmost h =>
    refine .succeeded hmost h rfl ?_
    rw [outcomes_append, outcomes_delivery, h.outcomes_eq hmost]
    rfl
  | failed _ hmost h h' =>
    rw [hnil, List.append_nil]
    refine .failed hmost h rfl ?_
    rw [outcomes_append, h.outcomes_eq hmost]
    exact h'.outcomes_eq
  | refused _ hmost h hb h' =>
    rw [hnil, List.append_nil]
    refine .refused hmost h hb rfl ?_
    rw [outcomes_append, h.outcomes_eq hmost]
    exact h'.outcomes_eq

theorem Minds.ends (hm : Minds l events l') (hw : w ∈ concluded events)
    (hw' : w.task = .handling number n) (hn : n.concernsCertificates = true) :
    Ends l.settings.maxEventRetries n w.acts := by
  cases hm with
  | aside _ _ _ _ hevents =>
    rw [concluded, List.filterMap_eq_nil_iff.2 fun e he ↦ (hevents e he).handled] at hw
    cases hw
  | @concludes v number' n' batch q q' hdesk hv hh =>
    rw [concluded_of_acts (by rw [Piece.add, hv]; rfl), List.mem_singleton] at hw
    subst hw
    rw [Piece.add, hv] at hw'
    cases hw'
    exact hh.ends hn l.now
  | _ => cases hw

theorem Run.ends (hl : l.IsFresh) (hcan : l.settings.CanRetry) (hr : Run l trace l')
    (hw : w ∈ concluded trace) (hw' : w.task = .handling number n)
    (hn : n.concernsCertificates = true) : Ends l.settings.maxEventRetries n w.acts := by
  induction hr with
  | refl => cases hw
  | @tail l' l'' trace events hr hs ih =>
    rw [concluded_append] at hw
    rcases List.mem_append.1 hw with hw | hw
    · exact ih hw
    · rw [← hr.goes.settings]
      exact (hr.minds hl hcan hs).ends hw hw' hn

/-! ## The whole account -/

/-- Where a notice is that was received. -/
inductive Stands (l : Life) (trace : List Event) (number : Nat) : Prop
  /-- An attempt is under way. -/
  | underway {w : Piece} (hw : l.desk.piece? = some w) (hnumber : w.task.number? = some number)
    (hn : number ∉ l.numbers)
  /-- The last attempt failed, and the notice waits to be handled again. -/
  | waiting {w : Piece} (hw : (attemptsAt l trace number).getLast? = some w)
    (ho : outcomes w.acts = [.scheduled]) (hn : number ∈ l.numbers)
  /-- The last attempt is over, and was not followed by another one. -/
  | closed {w : Piece} (hw : (attemptsAt l trace number).getLast? = some w)
    (hover : w ∈ concluded trace) (hfree : ∀ v ∈ l.desk.piece?, v.task.number? ≠ some number)
    (ho : outcomes w.acts ≠ [.scheduled]) (hn : number ∉ l.numbers)

/-- Retries are bounded and accounted for. The notices that were received have numbers, and so have
the entries of the queue. -/
structure AccountsForRetries (s : AgentSettings) (l : Life) (trace : List Event) : Prop where
  /-- Attempts that were begun are over, but for one at most. -/
  begun : trace.filterMap Event.taken? =
    (concluded trace ++ l.desk.piece?.toList).map Piece.start
  bounded : l.agent.retries.size ≤ s.maxPendingRetries
  numbered : l.numbers.length = l.agent.retries.size
  once : l.numbers.Nodup
  /-- An entry of the queue is what the last attempt at its notice leads to. -/
  queued : ∀ (i number : Nat) (e : Delayed), l.numbers[i]? = some number →
    l.agent.retries.entries[i]? = some e → ∃ w, (attemptsAt l trace number).getLast? = some w ∧
      Leads s w (.handling number e.notice) e.due
  /-- So is each later attempt. -/
  linked : ∀ number, Linked s (attemptsAt l trace number)
  attempts : ∀ number < l.received, ∃ n : Notice,
    (∀ (k : Nat) (w : Piece), (attemptsAt l trace number)[k]? = some w → ∃ retries : UInt32,
      w.task = .handling number { n with retries } ∧ retries.toNat = n.retries.toNat + k) ∧
    (n.concernsCertificates = true → (attemptsAt l trace number).countP Piece.asksRegistry ≤
      s.maxEventRetries.toNat + 1 - n.retries.toNat)
  ends : ∀ (w : Piece) (number : Nat) (n : Notice), w ∈ concluded trace →
    w.task = .handling number n → n.concernsCertificates = true → Ends s.maxEventRetries n w.acts
  stands : ∀ number < l.received, Stands l trace number

theorem Booked.stands (h : Booked l (concluded trace)) (hlt : number < l.received) :
    Stands l trace number := by
  obtain ⟨w, hw⟩ := Option.ne_none_iff_exists'.1
    (mt List.getLast?_eq_none_iff.1 (h.begun number hlt))
  by_cases hn : number ∈ l.numbers
  · obtain ⟨v, e, hv, hleads⟩ := h.waits hn
    exact .waiting hv hleads.outcomes hn
  · by_cases hfree : ∀ v ∈ l.desk.piece?, v.task.number? ≠ some number
    · obtain ⟨hmem, hnumber⟩ := List.mem_filter.1 (List.mem_of_getLast? hw)
      have hover : w ∈ concluded trace := by
        refine (List.mem_append.1 hmem).resolve_right fun hmem ↦ ?_
        exact hfree w (Option.mem_toList.1 hmem) (by simpa using hnumber)
      refine .closed hw hover hfree (fun ho ↦ hn (h.owed w number hw ho fun v hv ↦ ?_)) hn
      exact hfree v (by rw [hv]; rfl)
    · push Not at hfree
      obtain ⟨v, hv, hnumber⟩ := hfree
      exact .underway hv hnumber hn

/-- In every life, whatever fails, retries are bounded and accounted for. -/
theorem accounts_for_retries (hl : l.IsFresh) (hcan : l.settings.CanRetry)
    (hr : Run l trace l') : AccountsForRetries l.settings l' trace := by
  have hbooked := hr.booked hl hcan
  have hsettings := hr.goes.settings
  have hlinked (number : Nat) : Linked l.settings (attemptsAt l' trace number) := by
    rw [← hsettings]
    exact hbooked.linked number
  refine ⟨hr.begun hl hcan, ?_, hbooked.paired, hbooked.once, ?_, hlinked, fun number hlt ↦ ?_,
    fun w number n ↦ hr.ends hl hcan, fun number ↦ hbooked.stands⟩
  · rw [← hsettings]
    exact hbooked.size
  · rw [← hsettings]
    exact hbooked.queued
  · obtain ⟨w, ws, hws⟩ := List.exists_cons_of_ne_nil (hbooked.begun number hlt)
    have hmem : w ∈ concluded trace ++ l'.desk.piece?.toList ∧ w.task.number? = some number := by
      have hmem : w ∈ chain (concluded trace ++ l'.desk.piece?.toList) number := by
        rw [hws]
        exact List.mem_cons_self ..
      simpa using List.mem_filter.1 hmem
    obtain ⟨n, hw⟩ := Task.of_number? hmem.2
    have hws : attemptsAt l' trace number = w :: ws := hws
    have hchain := hlinked number
    rw [hws] at hchain ⊢
    refine ⟨n, fun k v hk ↦ hchain.numbered hw hk, fun hn ↦ hchain.few hw hn fun v hv ↦ ?_⟩
    refine hr.spares hl v ?_
    rw [← hws] at hv
    exact (List.mem_filter.1 hv).1

/-- A notice fails, waits, and is given up when it comes back. -/
theorem exhausted_notice_accounted :
    let settings : AgentSettings := { maxEventRetries := 0 }
    let l := ofSettings settings
    l.IsFresh ∧ settings.CanRetry ∧ ∃ trace l', Run l trace l' ∧
      (attemptsAt l' trace 0).map (fun w ↦ outcomes w.acts) = [[.scheduled], [.exhausted]] ∧
      (attemptsAt l' trace 0).countP Piece.asksRegistry = 1 ∧
      AccountsForRetries settings l' trace := by
  intro settings l
  have hfresh : l.IsFresh := isFresh_ofSettings settings
  have hcan : settings.CanRetry := ⟨by decide, by decide⟩
  let n : Notice :=
    { stage := { gateway := "gateway", name := "stage" }, kind := .secret, name := "secret" }
  let spent : AgentState := { l.agent with directory := l.agent.directory.touch n.stage }
  let entry : Delayed := ⟨5000, { n with retries := 1 }⟩
  let waiting : AgentState := { spent with retries := { l.agent.retries with entries := [entry] } }
  have hfails : (Task.job 0 l.agent (.handling 0 n)).Reaches
      [⟨.note (.received .secret), (), 0⟩, ⟨.get .secret n.key, .error (.backend "down"), 0⟩,
        ⟨.clock, 0, 0⟩, ⟨.note (.retry .scheduled), (), 0⟩] (.done (.ok (.batch []), waiting)) :=
    .call (.call (.call (.call (.refl _))))
  have hspent : (Task.job 0 spent (.handling 0 entry.notice)).Reaches
      [⟨.note (.received .secret), (), 5000⟩, ⟨.note (.retry .exhausted), (), 5000⟩]
      (.done (.ok (.batch []), spent)) :=
    .call (.call (.refl _))
  have hsend : CommitChannel.send { capacity := 1 } [] = .sent { capacity := 1 } := rfl
  have hwatches : Run l _ (awake settings) := run_awake (by decide)
  have hheard := hwatches.tail (.hear rfl rfl n)
  let failed : Life := { awake settings with received := 1, numbers := [0], agent := waiting }
  have hfailed : Run l _ failed :=
    hheard.trans (run_finish (l := ((awake settings).hear n).2) rfl hfails (by
      simp only [List.forall_mem_cons]
      exact ⟨⟨rfl, trivial⟩, ⟨rfl, trivial⟩, ⟨rfl, rfl⟩, ⟨rfl, trivial⟩, List.forall_mem_nil _⟩)
      hsend)
  let back : Life := { failed with now := 5000 }
  have hback : Run l _ back := hfailed.tail (.pass (show 0 ≤ 5000 by decide))
  have hretry : Step back (back.retry 0 0 entry.notice).1 (back.retry 0 0 entry.notice).2 :=
    .retry rfl rfl rfl rfl (Nat.le_refl 5000)
  have hgiven : Run l _ { awake settings with now := 5000, received := 1, agent := spent } :=
    (hback.tail hretry).trans (run_finish (l := (back.retry 0 0 entry.notice).2) rfl hspent (by
      simp only [List.forall_mem_cons]
      exact ⟨⟨rfl, trivial⟩, ⟨rfl, trivial⟩, List.forall_mem_nil _⟩) hsend)
  exact ⟨hfresh, hcan, _, _, hgiven, rfl, rfl, accounts_for_retries hfresh hcan hgiven⟩

end Life

end StageRelay
