import Mathlib.Logic.Relation
import StageRelay.CommandLine
import StageRelay.Pipeline.Clock
import StageRelay.Proofs.Life.Errands
import StageRelay.Proofs.RetryQueue

/-!
# The agent of a pipeline

Whatever happens to a pipeline after its start, its agent lives the life that its settings describe.
So what holds of all lives holds of the agent of every pipeline.
-/

namespace StageRelay

/-- What may happen to a pipeline once it was started. -/
inductive Pipeline.Evolves : Pipeline → Pipeline → Prop
  | step {p q : Pipeline} (h : p.step? = some q) : Evolves p q
  | advance (p : Pipeline) (millis : Nat) : Evolves p (p.advance millis)
  | change (p : Pipeline) (f : Registry → Registry) : Evolves p (p.withRegistry f)
  | shutDown (p : Pipeline) : Evolves p { p with isShutDown := true }
  | depose (p : Pipeline) : Evolves p { p with leaderLost := true }

namespace Life

variable {l l' : Life} {p q : Pipeline} {trace events : List Event} {batch : List Stage}
  {errand : Errand}

/-! ## Steps of the agent -/

theorem Plays.of_watching {leader watch : Nat} {doing : Doing}
    (h : Plays leader (.watching watch) doing) : doing = .watching := by
  cases h
  rfl

theorem Plays.of_reopening {leader attempt time : Nat} {doing : Doing}
    (h : Plays leader (.reopening attempt time) doing) : doing = .pausing attempt time := by
  cases h
  rfl

theorem Plays.of_sending {leader : Nat} {doing : Doing}
    (h : Plays leader (.sending batch errand) doing) :
    ∃ w, doing = .sending w batch ∧ Runs leader errand w.task := by
  cases h with
  | @sending _ _ w hw => exact ⟨w, rfl, hw⟩

theorem Plays.of_idle {leader : Nat} {doing : Doing} (h : Plays leader .idle doing) :
    doing = .fresh := by
  cases h
  rfl

theorem Plays.of_crashed {leader : Nat} {doing : Doing} (h : Plays leader .crashed doing) :
    doing = .crashed := by
  cases h
  rfl

theorem Bears.isCancelled_eq (h : Bears p l) (hs : p.isShutDown = false)
    (hl : p.leaderLost = false) : l.isCancelled = false := by
  rw [isCancelled, h.shutDown, h.deposed (h.shutDown.trans hs), hs, hl]
  rfl

/-- The agent returns. -/
theorem Follows.leave {p₁ : Pipeline} {l₁ : Life} {r : Except AgentError Unit} {phase : Phase}
    (hs : Step l (l₁.leave r).1 (l₁.leave r).2) (h : Bears p₁ l₁) (ha : l₁.agent = p₁.agent)
    (hp : Plays l₁.leader phase (.ended r)) (hservices : p.services.Follows [] p₁.services)
    (hchannel : p₁.channel = p.channel) : Follows p l (p₁.enter phase) := by
  have hshows : Shows (p₁.enter phase) (l₁.leave r).2 := ⟨h.enter phase trivial, fun _ ↦ ha, hp⟩
  exact .after hs rfl rfl hservices hchannel (.refl hshows)

theorem exists_erase_eq {es : List Delayed} {e : Delayed} (he : e ∈ es) :
    ∃ i, es[i]? = some e ∧ es.erase e = es.eraseIdx i :=
  ⟨es.idxOf e, List.getElem?_idxOf he, List.erase_eq_eraseIdx_of_idxOf rfl⟩

/-- A notice comes back. -/
theorem Bears.retries {retries : RetryQueue} {n : Notice} {watch : Nat} (h : Bears p l)
    (ha : l.agent = p.agent) (hd : l.doing = .watching) (hc : l.isCancelled = false)
    (hpop : p.agent.retries.pop? p.now = some (n, retries)) :
    Follows p l ({ p with agent := { p.agent with retries } }.handle n (some watch)) := by
  cases RetryQueue.Yields.of_pop? hpop with
  | @leave e he hdue =>
    obtain ⟨i, hi, herase⟩ := exists_erase_eq he
    obtain ⟨hlt, -⟩ := List.getElem?_eq_some_iff.1 hi
    have hlen : i < l.numbers.length := by
      rw [h.numbered, ha]
      exact hlt
    have hstep := Step.retry hd hc (ha ▸ hi) (List.getElem?_eq_getElem hlen) (h.now ▸ hdue)
    refine .after hstep rfl rfl (.refl _) rfl ?_
    have hnumbered :
        (l.numbers.eraseIdx i).length = (p.agent.retries.entries.eraseIdx i).length := by
      rw [List.length_eraseIdx_of_lt hlen, List.length_eraseIdx_of_lt hlt, h.numbered, ha]
      rfl
    refine Bears.handles (w := ⟨.handling l.numbers[i] e.notice, l.now, []⟩) ?_ ?_ rfl
    · exact { h with
        numbered := by
          show (l.numbers.eraseIdx i).length = (l.agent.retries.entries.eraseIdx i).length
          rw [ha]
          exact hnumbered
        sound := sound_take _ _ }
    · rw [herase, ← h.settings, ← ha]
      rfl

/-- What the agent does next while it waits for something to do. -/
theorem Bears.watchStep {watch : Nat} (h : Bears p l) (ha : l.agent = p.agent)
    (hd : l.doing = .watching) (hq : p.watchStep? watch = some q) : Follows p l q := by
  have hcancel : Bears (p.cancel watch) l.stopWatch := { h.stopWatch with }
  have hgiven : p.services.Follows [] (p.cancel watch).services := .watches _ (.refl _)
  have ha' : l.stopWatch.agent = p.agent := ha
  -- in the order of the agent: stopping, a notice, a notice that comes back, a tick
  unfold Pipeline.watchStep? at hq
  split at hq
  · next hs =>
    cases hq
    exact .leave (.stop hd (h.shutDown.trans hs)) hcancel ha' .stopped hgiven rfl
  next hs =>
  have hs := Bool.eq_false_iff.2 hs
  split at hq
  · next hl =>
    cases hq
    have hs' := h.shutDown.trans hs
    have hstep := Step.stepDown hd hs' ((h.deposed hs').trans hl)
    exact .leave hstep hcancel ha' .failed hgiven rfl
  next hl =>
  have hc := h.isCancelled_eq hs (Bool.eq_false_iff.2 hl)
  split at hq
  · next n rest _ =>
    cases hq
    have htaken : p.services.Follows []
      (p.withRegistry fun r ↦ r.setWatch watch rest).services := .watches _ (.refl _)
    refine .after (.hear hd hc n) rfl rfl htaken rfl ?_
    refine Bears.handles (w := ⟨.handling l.received n, l.now, []⟩) ?_ ?_ rfl
    · exact { h with sound := sound_take _ _ }
    · show Doing.working _ _ = Doing.working _ (Task.job p.settings.maxEventRetries p.agent _)
      rw [← h.settings, ← ha]
  · cases hq
    exact .after (.lose hd hc) rfl rfl hgiven rfl (hcancel.opensWatch ha' 1)
  · split at hq
    · next hpop =>
      cases hq
      exact h.retries ha hd hc hpop
    · obtain ⟨due, hdue, hq⟩ := Option.bind_eq_some_iff.1 hq
      split at hq
      · cases hq
      · cases hq
        refine .after (.tick hd hc) rfl rfl (.refl _) rfl ?_
        refine Bears.ticking (w := ⟨.ticking, l.now, []⟩) ?_ ?_ rfl
        · exact { h with ticks := h.ticks.trans (hdue ▸ rfl), sound := sound_take _ _ }
        · rw [← h.settings, ← ha]
          rfl

/-- What the agent does next. -/
theorem Shows.agentStep (h : Shows p l) (hq : p.agentStep? = some q) : Follows p l q := by
  have hplays := h.doing
  unfold Pipeline.agentStep? at hq
  split at hq
  · next watch hp =>
    rw [hp] at hplays
    exact h.watchStep (h.agent (by rw [hp]; exact nofun)) hplays.of_watching hq
  · next attempt time hp =>
    rw [hp] at hplays
    have ha := h.agent (by rw [hp]; exact nofun)
    have hd := hplays.of_reopening
    split at hq
    · next hs =>
      cases hq
      exact .leave (.quit hd (h.shutDown.trans hs)) h.toBears ha .stopped (.refl _) rfl
    · split at hq
      · next ht =>
        cases hq
        exact .after (.wake hd (h.now ▸ ht)) rfl rfl (.refl _) rfl (h.opensWatch ha attempt)
      · cases hq
  · next batch errand hp =>
    rw [hp] at hplays
    have ha := h.agent (by rw [hp]; exact nofun)
    obtain ⟨w, hd, hw⟩ := hplays.of_sending
    split at hq
    · cases hq
    · cases hq
      exact h.sends ha hd hw
  · cases hq

/-- The agent is started. -/
theorem Shows.start (h : Shows p l) (hp : p.phase = .idle) :
    Follows p l p.start := by
  have ha := h.agent (by rw [hp]; exact nofun)
  have hplays := h.doing
  rw [hp] at hplays
  have hbears : Bears { p with committing := true } l.stopWatch := { h.stopWatch with }
  exact .after (.start hplays.of_idle) rfl rfl (.refl _) rfl (hbears.opensWatch ha 1)

/-! ## Pipelines in time -/

/-- What the committer does next is nothing to the agent. -/
theorem Shows.committerStep (h : Shows p l) (hq : p.committerStep? = some q) : Shows q l := by
  unfold Pipeline.committerStep? at hq
  split at hq
  · next segment segments _ =>
    cases hq
    have hfollows := Services.follows_run (Commit.commitSegment segment) p.services
    exact { h with now := h.now.trans hfollows.now_eq.symm }
  split at hq
  · cases hq
  split at hq
  · cases hq
    exact { h with }
  · obtain ⟨⟨batch, channel⟩, -, rfl⟩ := Option.map_eq_some_iff.1 hq
    exact { h with }

/-- A pipeline shows what became of a life. -/
def Reaches (l : Life) (q : Pipeline) : Prop :=
  ∃ trace l', Run l trace l' ∧ Shows q l'

theorem Follows.reaches (h : Follows p l q) : Reaches l q := by
  obtain ⟨trace, l', hr, hshows, -, -⟩ := h
  exact ⟨trace, l', hr, hshows⟩

theorem Follows.now_eq (h : Follows p l q) : q.now = p.now := by
  obtain ⟨_, _, _, _, hcalls, _⟩ := h
  exact hcalls.now_eq

theorem Shows.reaches (h : Shows p l) : Reaches l p :=
  ⟨[], l, .refl l, h⟩

theorem Reaches.head (hr : Run l trace l') (h : Reaches l' p) : Reaches l p := by
  obtain ⟨trace', l'', hr', hshows⟩ := h
  exact ⟨trace ++ trace', l'', hr.trans hr', hshows⟩

theorem Reaches.bind (h : Reaches l p) (hq : ∀ l', Shows p l' → Reaches l' q) : Reaches l q := by
  obtain ⟨trace, l', hr, hshows⟩ := h
  exact .head hr (hq l' hshows)

/-- A step takes no time. -/
theorem Shows.step (h : Shows p l) (hq : p.step? = some q) : q.now = p.now ∧ Reaches l q := by
  rcases Option.or_eq_some_iff.1 hq with hq | ⟨-, hq⟩
  · have hfollows := h.agentStep hq
    exact ⟨hfollows.now_eq, hfollows.reaches⟩
  · have hshows := h.committerStep hq
    exact ⟨hshows.now.symm.trans h.now, hshows.reaches⟩

theorem Shows.setTime (h : Shows p l) {time : Nat} (ht : p.now ≤ time) :
    Reaches l (p.setTime time) := by
  have hpass : Step l [] { l with now := time } := .pass (h.now ▸ ht)
  refine ⟨_, _, .tail (.refl l) hpass, ?_⟩
  exact { h with now := rfl, sound := h.sound.step hpass }

theorem Shows.shutsDown (h : Shows p l) : Reaches l { p with isShutDown := true } := by
  have hcancel : Step l [] { l with tokens := l.tokens.cancel l.shutdown } := .cancel l.shutdown
  have hs := Tokens.isCancelled_cancel_self (h.apart.trans h.issued)
  refine ⟨_, _, .tail (.refl l) hcancel, ?_⟩
  exact { h with
    shutDown := hs
    deposed := fun hs' ↦ absurd (hs.symm.trans hs') nofun
    issued := by rw [Tokens.size_cancel]; exact h.issued
    sound := h.sound.step hcancel }

theorem Shows.depose (h : Shows p l) : Reaches l { p with leaderLost := true } := by
  have hcancel : Step l [] { l with tokens := l.tokens.cancel l.leader } := .cancel l.leader
  refine ⟨_, _, .tail (.refl l) hcancel, ?_⟩
  exact { h with
    shutDown := (Tokens.isCancelled_cancel_of_lt h.apart).trans h.shutDown
    deposed := fun _ ↦ Tokens.isCancelled_cancel_self h.issued
    issued := by rw [Tokens.size_cancel]; exact h.issued
    sound := h.sound.step hcancel }

/-- The registry may be changed in any way. -/
theorem Shows.withRegistry (h : Shows p l) (f : Registry → Registry) : Shows (p.withRegistry f) l :=
  { h with }

theorem Shows.steps (h : Shows p l) (fuel : Nat) :
    (p.steps fuel).now = p.now ∧ Reaches l (p.steps fuel) := by
  induction fuel generalizing p l with
  | zero => exact ⟨rfl, h.reaches⟩
  | succ fuel ih =>
    unfold Pipeline.steps
    cases hq : p.step? with
    | none => exact ⟨rfl, h.reaches⟩
    | some q =>
      obtain ⟨hnow, trace, l', hr, hshows⟩ := h.step hq
      obtain ⟨hnow', hreaches⟩ := ih hshows
      exact ⟨hnow'.trans hnow, .head hr hreaches⟩

theorem Shows.settle (h : Shows p l) : p.settle.now = p.now ∧ Reaches l p.settle :=
  h.steps p.load

theorem Shows.runTo (h : Shows p l) {time : Nat} (ht : p.now ≤ time) (fuel : Nat) :
    Reaches l (p.runTo time fuel) := by
  induction fuel generalizing p l with
  | zero => exact h.setTime ht
  | succ fuel ih =>
    unfold Pipeline.runTo
    cases hnext : p.nextTime? with
    | none => exact h.setTime ht
    | some next =>
      dsimp only
      split
      · next hle =>
        -- settling takes no time, so that the end is still ahead
        refine (h.setTime (le_max_right next p.now)).bind fun l' h' ↦ ?_
        obtain ⟨hnow, hsettled⟩ := h'.settle
        exact hsettled.bind fun l'' h'' ↦ ih h'' (hnow.trans_le (max_le hle ht))
      · exact h.setTime ht

/-- When time passes, the agent lives on. -/
theorem Shows.advance (h : Shows p l) (millis : Nat) : Reaches l (p.advance millis) := by
  obtain ⟨hnow, hsettled⟩ := h.settle
  exact hsettled.bind fun l' h' ↦ h'.runTo (Nat.le_add_right _ _) _

/-! ## Pipelines that settings describe -/

/-- The life of the agent that settings describe. -/
def ofPipeline (s : Settings) : Life :=
  { ofSettings s.agent with agent := .start s.agent s.tls.perStage }

theorem isFresh_ofPipeline (s : Settings) : (ofPipeline s).IsFresh :=
  ⟨rfl, rfl, rfl, rfl, rfl, rfl, rfl⟩

theorem shows_ofSettings (s : Settings) (store : Store) :
    Shows (.ofSettings s store) (ofPipeline s) where
  settings := rfl
  now := rfl
  shutDown := rfl
  deposed _ := rfl
  apart := Nat.zero_lt_one
  ticks := rfl
  numbered := rfl
  issued := Nat.one_lt_two
  watch := nofun
  sound := trivial
  agent _ := rfl
  doing := .fresh

theorem Shows.evolves (h : Shows p l) (hq : p.Evolves q) : Reaches l q := by
  cases hq with
  | step hq => exact (h.step hq).2
  | advance millis => exact h.advance millis
  | change f => exact (h.withRegistry f).reaches
  | shutDown => exact h.shutsDown
  | depose => exact h.depose

/-- Whatever becomes of a pipeline after its start, its agent lives the life that the settings
describe. -/
theorem reaches_of_evolves {s : Settings} {store : Store}
    (h : Relation.ReflTransGen Pipeline.Evolves (Pipeline.ofSettings s store).start q) :
    Reaches (ofPipeline s) q := by
  induction h with
  | refl => exact ((shows_ofSettings s store).start rfl).reaches
  | tail _ hq ih => exact ih.bind fun _ hshows ↦ hshows.evolves hq

end Life

end StageRelay
