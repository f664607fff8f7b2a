import StageRelay.Proofs.Interleaving.Touches
import StageRelay.Proofs.Interleaving.Undisturbed

/-!
# The payload that waits

Under each key waits the payload that was written last. Notices write theirs, and so does a commit
that fails: it puts back the payload that it began with, even if a newer one came to wait in the
meantime. So the payload of the latest notice is the one that waits unless a commit with another
payload is put back after it.
-/

namespace StageRelay

namespace System

/-- The payload that waits under a key. -/
def payload? (x : System) (key : String) : Option Stage :=
  (x.services.debouncer.waiting.find? key).map Waiting.stage

namespace Touch

/-- The payload that waits under a key after a touch, given the one before it. -/
def next (key : String) (p? : Option Stage) : Touch → Option Stage
  | heard n => if n.stage.key = key then some n.stage else p?
  | revived => if Stage.all.key = key then some Stage.all else p?
  | drained due => if key ∈ due.map Stage.key then none else p?
  | putBack s => if s.key = key then some s.forRetry else p?

/-- The stage with a key that is put back. -/
def backUnder? (key : String) : Touch → Option Stage
  | putBack s => if s.key = key then some s else none
  | _ => none

/-- Whether a touch takes nothing out under a key, and the agent makes nothing wait under it. -/
def Spares (key : String) : Touch → Prop
  | heard n => n.stage.key ≠ key
  | revived => Stage.all.key ≠ key
  | drained due => key ∉ due.map Stage.key
  | putBack _ => True

/-- Among touches that spare a key only those count that put a stage back under it, and of these
the last. -/
theorem foldl_next_of_spares {key : String} {trace : List Touch} (h : ∀ t ∈ trace, t.Spares key)
    (p? : Option Stage) :
    trace.foldl (next key) p? =
      ((trace.filterMap (backUnder? key)).getLast?.map Stage.forRetry).or p? := by
  induction trace using List.reverseRecOn with
  | nil => rfl
  | append_singleton trace t ih =>
    obtain ⟨htrace, ht⟩ := List.forall_mem_append.1 h
    rw [List.foldl_append, ih htrace, List.foldl_cons, List.foldl_nil, List.filterMap_append]
    have ht := List.forall_mem_singleton.1 ht
    cases t with
    | heard n => simp [next, backUnder?, show n.stage.key ≠ key from ht]
    | revived => simp [next, backUnder?, show Stage.all.key ≠ key from ht]
    | drained due => simp [next, backUnder?, show key ∉ due.map Stage.key from ht]
    | putBack s =>
      by_cases hs : s.key = key
      · simp [next, backUnder?, hs]
      · simp [next, backUnder?, hs]

end Touch

variable {rules : Rules} {x y z : System} {trace : List Touch} {key : String}

/-- The stages that wait stand in order, each under its own key. -/
structure Shelved (x : System) : Prop where
  sorted : x.services.debouncer.waiting.Sorted
  keyed : x.services.debouncer.Keyed

theorem payload?_of_update (s : Stage) {now : Nat}
    (h : y.services.debouncer = x.services.debouncer.update now s) :
    y.payload? key = if s.key = key then some s else x.payload? key := by
  rw [payload?, h, Debouncer.update, Dict.find?_insert]
  by_cases hkey : s.key = key
  · simp [hkey]
  · simp [hkey, Ne.symm hkey, payload?]

theorem Shelved.of_update (hx : x.Shelved) {s : Stage} {now : Nat}
    (h : y.services.debouncer = x.services.debouncer.update now s) : y.Shelved := by
  constructor
  · rw [h]
    exact hx.sorted.insert _ _
  · rw [h]
    exact hx.keyed.update

/-- What a touch makes of the payload that waits under a key. -/
theorem Shelved.touches (hx : x.Shelved) (key : String) {touches : List Touch}
    (h : Touches x y touches) :
    y.Shelved ∧ y.payload? key = touches.foldl (Touch.next key) (x.payload? key) := by
  cases h with
  | nothing hd => exact ⟨⟨hd ▸ hx.sorted, hd ▸ hx.keyed⟩, by rw [payload?, hd]; rfl⟩
  | heard ha hd => exact ⟨hx.of_update hd, payload?_of_update _ hd⟩
  | revived ha hd => exact ⟨hx.of_update hd, payload?_of_update _ hd⟩
  | @putBack s hs hd => exact ⟨hx.of_update hd, payload?_of_update s.forRetry hd⟩
  | drained ha hd =>
    refine ⟨⟨hd ▸ hx.sorted.filter _, hd ▸ hx.keyed.drain⟩, ?_⟩
    rw [payload?, hd, Debouncer.find?_drain hx.sorted hx.keyed]
    show Option.map _ (if _ then _ else _) = if _ then _ else _
    split <;> rfl

/-- What a run makes of it. -/
theorem Shelved.traced (hx : x.Shelved) (key : String) (h : Traced rules x trace y) :
    y.Shelved ∧ y.payload? key = trace.foldl (Touch.next key) (x.payload? key) := by
  induction h with
  | refl => exact ⟨hx, rfl⟩
  | tail _ hs ht ih =>
    obtain ⟨hy, hpayload⟩ := ih
    obtain ⟨hz, htouches⟩ := hy.touches key ht
    exact ⟨hz, by rw [htouches, hpayload, List.foldl_append]⟩

/-- Every run of orderly parties has a trace, and along any trace the payload of the latest notice
of a stage waits until it is taken out, unless the stage is put back after the notice: then the
payload that was put back last waits, and the next commit reports under its publish number. -/
theorem latest_payload_waits_iff (hx : x.Orderly) (hs : x.Shelved) :
    (∀ y, x.Run rules y → ∃ trace, Traced rules x trace y) ∧
      ∀ y before n after, Traced rules x (before ++ .heard n :: after) y →
        (∀ t ∈ after, t.Spares n.stage.key) →
        ∃ s, y.payload? n.stage.key = some s ∧
          s = ((after.filterMap (Touch.backUnder? n.stage.key)).getLast?.map
            Stage.forRetry).getD n.stage ∧
          (s.publishId = n.stage.publishId ↔
            ∀ u ∈ (after.filterMap (Touch.backUnder? n.stage.key)).getLast?,
              u.publishId = n.stage.publishId) := by
  refine ⟨fun y hrun ↦ (hx.exists_traced hrun).2, ?_⟩
  intro y before n after htrace hspares
  have hpayload := (hs.traced n.stage.key htrace).2
  rw [List.foldl_append, List.foldl_cons, Touch.next, if_pos rfl,
    Touch.foldl_next_of_spares hspares] at hpayload
  cases hback : (after.filterMap (Touch.backUnder? n.stage.key)).getLast? with
  | none =>
    rw [hback] at hpayload
    exact ⟨n.stage, hpayload, rfl, by simp⟩
  | some u =>
    rw [hback] at hpayload
    refine ⟨u.forRetry, hpayload, rfl, ?_⟩
    simp [Stage.forRetry]

/-- A notice is handled while a commit with an older payload fails: the older payload waits. -/
theorem put_back_payload_waits :
    let rules : Rules := ⟨fun _ ↦ True, fun _ _ ↦ True, fun _ ↦ true⟩
    let s : Stage := { gateway := "gateway", name := "stage", publishId := 1 }
    let n : Notice := { stage := { s with publishId := 2 }, kind := .stage, name := "stage" }
    let agent : AgentState :=
      { directory := .empty true, retries := { capacity := 1, delay := 1 } }
    let x : System :=
      { services := {}, maxRetries := 3, segmentSize := 1, watch := 0
        channel := { capacity := 1 }, agent
        activity := .working (some n) (.call (.postpone n.stage) fun _ ↦ .done (.batch [], agent))
        progress := .committing [⟨s, .call (.postpone s.forRetry) fun _ ↦ .done (.error .crashed)⟩]
          [] }
    x.Orderly ∧ x.Shelved ∧ ∃ y, Traced rules x ([] ++ .heard n :: [.putBack s]) y ∧
      (∀ t ∈ [Touch.putBack s], t.Spares n.stage.key) ∧
      ∃ t, y.payload? n.stage.key = some t ∧ t.publishId ≠ n.stage.publishId := by
  intro rules s n agent x
  have hx : x.Orderly := by
    refine ⟨⟨List.mem_singleton.2 rfl, fun _ ↦ trivial⟩, ?_⟩
    exact List.forall_mem_singleton.2 ⟨List.mem_singleton.2 rfl, fun _ ↦ trivial⟩
  have hs : x.Shelved := ⟨Dict.sorted_nil, fun e he ↦ nomatch he⟩
  have hheard : Traced rules x ([] ++ [.heard n]) _ :=
    .tail (.refl x) (.work rfl rfl) (.heard rfl rfl)
  have htrace : Traced rules x ([] ++ [.heard n] ++ [.putBack s]) _ :=
    hheard.tail (.commit (show _ = Progress.committing ([] ++ _ :: []) _ from rfl))
      (.putBack (List.mem_singleton.2 rfl) rfl)
  have hspares : ∀ t ∈ [Touch.putBack s], t.Spares n.stage.key := by simp [Touch.Spares]
  obtain ⟨t, ht, -, hiff⟩ := (latest_payload_waits_iff hx hs).2 _ [] n [.putBack s] htrace hspares
  refine ⟨hx, hs, _, htrace, hspares, t, ht, ?_⟩
  rw [ne_eq, hiff]
  decide +kernel

/-! ## An older payload replaces a newer one -/

/-- A batch with a stage is drained, a later notice of the stage is handled, and only then the
commit of the batch fails: the stage waits with the payload of the batch. -/
theorem failed_commit_rolls_back :
    let rules : Rules := ⟨fun _ ↦ True, fun _ _ ↦ True, fun _ ↦ true⟩
    let object (id : Int64) : Resource :=
      { kind := .stage, name := "stage"
        stage := { gateway := "gateway", name := "stage", publishId := id } }
    let x : System :=
      { services := { registry := { watches := [{}] }, debouncer := { debounce := 1, force := 9 } }
        maxRetries := 3, segmentSize := 1, watch := 0, channel := { capacity := 1 }
        agent := { directory := .empty true, retries := { capacity := 1, delay := 1 } } }
    ∃ drained heard failed : System,
      x.Run rules drained ∧ drained.progress.stages = [(object 1).stage] ∧
        drained.payload? "gateway/stage" = none ∧
      drained.Run rules heard ∧ heard.payload? "gateway/stage" = some (object 2).stage ∧
      heard.Run rules failed ∧ failed.payload? "gateway/stage" = some (object 1).stage := by
  intro rules object x
  let s := (object 1).stage
  let x₁ := x.absorb (object 1)
  let x₂ : System := { x₁ with services := { x₁.services with now := 5 } }
  let x₃ : System := { x₂ with services := x₂.services.afterTick, activity := .sending [s] }
  let x₄ : System := { x₃ with activity := .idle, channel := { capacity := 1, batches := [[s]] } }
  let x₅ : System := { x₄ with channel := { capacity := 1 }, segments := [[s]] }
  let drained : System := ({ x₅ with segments := [] } : System).beginSegment [s]
  let heard := drained.absorb (object 2)
  let faulty : Services := { heard.services with faults := { get := ["*"] } }
  let result := (Commit.commitStage s).run Services.host faulty
  let failed := heard.committing result.2 [⟨s, .done result.1⟩] []
  have heval : Absorbs rules x (object 1) ∧ x₂.services.batchFor x₂.services.drain.1 = [s] ∧
      Absorbs rules drained (object 2) := by
    decide +kernel
  obtain ⟨hfirst, hbatch, hsecond⟩ := heval
  have hfirst : x.Run rules x₁ := run_absorb hfirst rfl trivial
  have hpass : Step rules x₁ x₂ := .pass 5 _ _ _ (by decide +kernel)
  have htick : x₂.Run rules x₃ := by
    have hrun := run_tick (x := x₂) rfl (rules.allow_of_forall (fun _ ↦ rfl) _ _)
    rwa [hbatch] at hrun
  have hsend : Step rules x₃ x₄ := .send rfl (.refl _) rfl
  have hreceive : Step rules x₄ x₅ := by
    have hstep : Step rules x₄ { x₅ with segments := Commit.segments 1 [s] } := .receive rfl rfl rfl
    simpa [Commit.segments] using hstep
  have hbegin : Step rules x₅ drained := .begin rfl rfl
  have hfault : Step rules heard { heard with services := faulty } := .pass _ _ _ _ le_rfl
  have hcommit : ({ heard with services := faulty } : System).Run rules failed :=
    run_task (x := heard) (Commit.commitStage s) faulty []
  refine ⟨drained, heard, failed, ?_, ?_, ?_, ?_, ?_, ?_, ?_⟩
  · exact hfirst.trans (.head hpass (htick.trans (.head hsend (.head hreceive (.single hbegin)))))
  · rfl
  · decide +kernel
  · exact run_absorb hsecond rfl trivial
  · decide +kernel
  · exact .head hfault hcommit
  · decide +kernel

end System

end StageRelay
