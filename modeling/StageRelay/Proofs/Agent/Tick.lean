import StageRelay.Pipeline.Basic
import StageRelay.Proofs.Debounce.Timeline
import StageRelay.Proofs.Work.Executions

/-!
# What leaves at a tick

A tick takes out the stages that are due before it knows what it will send. If the stage that stands
for all stages is among them, the stages that the registry has are sent instead of those that were
due, and one that the registry no longer has is forgotten: its configuration is never withdrawn. All
others are sent or wait again.
-/

namespace StageRelay

theorem Stage.all_same {s : Stage} (h : s.isAll) : Stage.all.same s := by
  rw [isAll, Bool.and_eq_true, String.isEmpty_iff, String.isEmpty_iff] at h
  exact same_iff.2 ⟨h.1.symm, h.2.symm⟩

/-! ## The batch of a tick -/

namespace Services

/-- The batch of a tick at which some stages are due. -/
def batchFor (services : Services) (due : List Stage) : List Stage :=
  if due.any Stage.isAll then
    if services.faults.stages then due.filter fun s ↦ !s.isAll else services.registry.store.stages
  else due

/-- What a tick leaves behind: all stages wait again if they were due and could not be listed. -/
def afterTick (services : Services) : Services :=
  if services.drain.1.any Stage.isAll && services.faults.stages then
    services.drain.2.postpone Stage.all
  else services.drain.2

end Services

/-- A call of a tick, which makes no stage wait but the one that stands for all stages. -/
def Call.Revives {β : Type} : Call β → Prop
  | .drain | .stages => True
  | .postpone s => s = Stage.all
  | _ => False

namespace Agent

/-- The calls of a tick. -/
theorem run_tick_eq (a : AgentState) : tick.run a = .call .drain fun due ↦
    if due.any Stage.isAll then
      .call .stages fun r ↦
        match r with
        | .ok stages => .done (stages, a)
        | .error _ => .call (.postpone Stage.all) fun _ ↦ .done (due.filter fun s ↦ !s.isAll, a)
    else .done (due, a) := by
  show Job.call _ _ = Job.call _ _
  congr 1
  funext due
  show (StateT.run (if due.any Stage.isAll then _ else _) a) = _
  split
  · show Job.call _ _ = Job.call _ _
    congr 1
    funext r
    cases r <;> rfl
  · rfl

theorem tick_only (a : AgentState) : (tick.run a).Only Call.Revives := by
  rw [run_tick_eq]
  refine ⟨trivial, fun due ↦ ?_⟩
  dsimp only
  split
  · refine ⟨trivial, ?_⟩
    rintro (e | stages)
    · exact ⟨rfl, fun _ ↦ trivial⟩
    · trivial
  · trivial

/-- A tick leaves what the agent keeps as it is. -/
theorem tick_reaches {a a' : AgentState} {calls : List Answered} {batch : List Stage}
    (h : (tick.run a).Reaches calls (.done (batch, a'))) : a' = a := by
  rw [run_tick_eq] at h
  cases h with
  | call h =>
    dsimp only at h
    split at h
    · cases h with
      | @call _ _ _ r _ _ _ h =>
        cases r with
        | ok stages =>
          cases h
          rfl
        | error e =>
          cases h with
          | call h =>
            cases h
            rfl
    · cases h
      rfl

theorem run_tick (a : AgentState) (services : Services) :
    (tick.run a).run Services.host services =
      ((services.batchFor services.drain.1, a), services.afterTick) := by
  have hdrain : Services.host.answer .drain services = services.drain := rfl
  have hstages : Services.host.answer .stages services.drain.2 =
      (if services.faults.stages then .error Services.backendFault
        else .ok services.registry.store.stages, services.drain.2) := rfl
  rw [run_tick_eq, Job.run_call, hdrain, Services.batchFor, Services.afterTick]
  cases hall : services.drain.1.any Stage.isAll with
  | false => rfl
  | true =>
    rw [if_pos rfl, if_pos rfl, Job.run_call, hstages]
    cases services.faults.stages <;> rfl

end Agent

/-! ## What becomes of the stages that were due -/

namespace Pipeline

/-- A batch is handed over when it comes last in the channel, or waits for room there. -/
def Hands (p p' : Pipeline) (batch : List Stage) : Prop :=
  p'.channel.batches = p.channel.batches ++ [batch] ∨ ∃ errand, p'.phase = .sending batch errand

/-- A stage is not lost if it is in a batch that is handed over or waits. -/
def Keeps (p p' : Pipeline) (s : Stage) : Prop :=
  (∃ batch, p.Hands p' batch ∧ ∃ t ∈ batch, t.same s) ∨ ∃ t ∈ p'.services.debouncer.stages, t.same s

variable {p : Pipeline} {batch batch' : List Stage} {watch? : Option Nat} {s : Stage}

/-- An empty batch is not handed over; any other is. -/
theorem hands_send_iff (hopen : p.channel.isOpen) :
    p.Hands (p.send batch (.tick watch?)) batch' ↔ batch ≠ [] ∧ batch' = batch := by
  have hback (errand : Errand) : back watch? ≠ .sending batch' errand := by
    cases watch? <;> exact nofun
  unfold send CommitChannel.send Hands
  cases batch with
  | nil => simp [finish, enter, hback]
  | cons t batch =>
    by_cases hfull : p.channel.capacity ≤ p.channel.batches.length
    · simp [hopen, hfull, enter, eq_comm]
    · simp [hopen, hfull, finish, enter, hback, eq_comm]

theorem services_send : (p.send batch (.tick watch?)).services = p.services := by
  unfold send
  split <;> rfl

theorem tick_eq :
    p.tick watch? = { p with services := p.services.afterTick }.send
      (p.services.batchFor p.services.drain.1) (.tick watch?) := by
  rw [tick, perform, run, Agent.run_tick]

theorem services_tick : (p.tick watch?).services = p.services.afterTick := by
  rw [tick_eq, services_send]

/-- A stage that is to be sent is handed over. -/
theorem keeps_tick_iff (hopen : p.channel.isOpen) :
    p.Keeps (p.tick watch?) s ↔ (∃ t ∈ p.services.batchFor p.services.drain.1, t.same s) ∨
      ∃ t ∈ p.services.afterTick.debouncer.stages, t.same s := by
  have hhands (batch : List Stage) : p.Hands (p.tick watch?) batch ↔
      p.services.batchFor p.services.drain.1 ≠ [] ∧
        batch = p.services.batchFor p.services.drain.1 := by
    rw [tick_eq]
    exact hands_send_iff (p := { p with services := p.services.afterTick }) hopen
  rw [Keeps, services_tick]
  refine or_congr_left ?_
  constructor
  · rintro ⟨batch, hbatch, ht⟩
    obtain ⟨-, rfl⟩ := (hhands batch).1 hbatch
    exact ht
  · rintro ⟨t, ht, hsame⟩
    exact ⟨_, (hhands _).2 ⟨List.ne_nil_of_mem ht, rfl⟩, t, ht, hsame⟩

/-- A stage that has left does not wait. -/
theorem not_waits_of_drained {d : Debouncer} {now : Nat} (hd : d.waiting.Sorted) (hk : d.Keyed)
    (hs : s ∈ (d.drain now).1) : ¬ ∃ t ∈ (d.drain now).2.stages, t.same s := by
  rintro ⟨t, ht, hsame⟩
  obtain ⟨⟨key, w⟩, he, rfl⟩ := List.mem_map.1 ht
  obtain rfl : key = w.stage.key := hk.drain _ he
  have hwaits : (d.drain now).2.waiting.find? w.stage.key = some w :=
    (hd.filter _).find?_eq_some_iff.2 he
  rw [Debouncer.find?_drain hd hk, Stage.key_of_same hsame,
    if_pos (List.mem_map_of_mem hs)] at hwaits
  cases hwaits

/-- The stages that are lost at a tick are those that the registry does not list when it lists the
stages that are sent. The stage that stands for all stages waits again, or every stage that is
listed is sent. -/
theorem kept_at_tick_iff_listed (hopen : p.channel.isOpen)
    (hsorted : p.services.debouncer.waiting.Sorted) (hkeyed : p.services.debouncer.Keyed)
    (hs : s ∈ (p.services.debouncer.drain p.now).1) :
    (¬ s.isAll → (p.Keeps (p.tick watch?) s ↔
      ((∃ t ∈ (p.services.debouncer.drain p.now).1, t.isAll) → p.services.faults.stages = false →
        ∃ t ∈ p.services.registry.store.stages, t.same s))) ∧
    (s.isAll → p.Keeps (p.tick watch?) s ∨
      ∀ t ∈ p.services.registry.store.stages, p.Keeps (p.tick watch?) t) := by
  have hself : ∃ t ∈ p.services.drain.1, t.same s := ⟨s, hs, Stage.same_refl s⟩
  have hany : p.services.drain.1.any Stage.isAll ↔
      ∃ t ∈ (p.services.debouncer.drain p.now).1, t.isAll := List.any_eq_true
  simp only [keeps_tick_iff hopen, Services.batchFor, Services.afterTick, ← hany]
  cases hall : p.services.drain.1.any Stage.isAll with
  | false => simp [hself]
  | true =>
    cases hlists : p.services.faults.stages with
    | false =>
      have hgone : ¬ ∃ t ∈ p.services.drain.2.debouncer.stages, t.same s :=
        not_waits_of_drained hsorted hkeyed hs
      refine ⟨fun _ ↦ ?_, fun _ ↦ .inr fun t ht ↦ .inl ⟨t, ht, Stage.same_refl t⟩⟩
      rw [if_pos rfl, if_neg Bool.false_ne_true, Bool.and_false, if_neg Bool.false_ne_true,
        or_iff_left hgone]
      exact ⟨fun h _ _ ↦ h, fun h ↦ h rfl rfl⟩
    | true =>
      refine ⟨fun hnamed ↦ ⟨fun _ _ ↦ nofun, fun _ ↦ .inl ⟨s, ?_, Stage.same_refl s⟩⟩,
        fun hsentinel ↦ .inl (.inr ⟨Stage.all, ?_, Stage.all_same hsentinel⟩)⟩
      · exact List.mem_filter.2 ⟨hs, by simp [hnamed]⟩
      · exact Debouncer.mem_stages_update_self

/-- All stages are due, and so is one that the registry no longer has: it is lost. -/
theorem unlisted_stage_lost_at_tick :
    let gone : Stage := { gateway := "gateway", name := "gone" }
    let kept : Stage := { gateway := "gateway", name := "kept" }
    let debouncer := (({ debounce := 1, force := 9 } : Debouncer).update 0 gone).update 0 Stage.all
    let store := ({} : Store).put { kind := .stage, stage := kept, name := "kept" }
    let p : Pipeline :=
      { services := { now := 5, registry := { store }, debouncer }
        settings := {}, segmentSize := 1, channel := { capacity := 1 }
        agent := { directory := .empty true, retries := { capacity := 1, delay := 1 } } }
    p.channel.isOpen ∧ gone ∈ (p.services.debouncer.drain p.now).1 ∧
      ¬ p.Keeps (p.tick none) gone := by
  intro gone kept debouncer store p
  refine ⟨rfl, by decide, ?_⟩
  rw [keeps_tick_iff rfl]
  decide +kernel

/-- A stage that the registry lists is sent although all stages are due. -/
theorem listed_stage_kept_at_tick :
    let kept : Stage := { gateway := "gateway", name := "kept" }
    let debouncer := (({ debounce := 1, force := 9 } : Debouncer).update 0 kept).update 0 Stage.all
    let store := ({} : Store).put { kind := .stage, stage := kept, name := "kept" }
    let p : Pipeline :=
      { services := { now := 5, registry := { store }, debouncer }
        settings := {}, segmentSize := 1, channel := { capacity := 1 }
        agent := { directory := .empty true, retries := { capacity := 1, delay := 1 } } }
    (p.channel.isOpen ∧ p.services.debouncer.waiting.Sorted ∧ p.services.debouncer.Keyed ∧
      kept ∈ (p.services.debouncer.drain p.now).1 ∧ ¬ kept.isAll) ∧
      p.Keeps (p.tick none) kept := by
  intro kept debouncer store p
  have hsorted : p.services.debouncer.waiting.Sorted := (Dict.sorted_nil.insert _ _).insert _ _
  have hkeyed : p.services.debouncer.Keyed :=
    Debouncer.Keyed.update (Debouncer.Keyed.update fun e he ↦ nomatch he)
  have heval : kept ∈ (p.services.debouncer.drain p.now).1 ∧ ¬ kept.isAll ∧
      ∃ t ∈ p.services.registry.store.stages, t.same kept := by
    decide +kernel
  obtain ⟨hdue, hnamed, hlisted⟩ := heval
  refine ⟨⟨rfl, hsorted, hkeyed, hdue, hnamed⟩, ?_⟩
  exact ((kept_at_tick_iff_listed rfl hsorted hkeyed hdue).1 hnamed).2 fun _ _ ↦ hlisted

end Pipeline

end StageRelay
