import Mathlib.Data.List.DropRight
import StageRelay.Proofs.Life.Turns

/-!
# Watches are owned

The agent has at most one watch. The token of every other one is cancelled, and when the agent
returns so is the last one. A watch is opened anew in at most so many attempts, with a pause after
each that failed, and no attempt hands over a watch unless the watch was opened before the stages
were listed.
-/

namespace StageRelay

theorem AgentSettings.one_le_attempts (s : AgentSettings) : 1 ≤ s.attempts := le_max_left _ _

namespace Life

variable {l l' : Life} {trace events : List Event} {begun : List Piece} {ended : List Finished}
  {f : Finished} {w : Piece}

/-! ## Tokens -/

/-- The token of the watch, or of the attempt to open one. -/
def held? (l : Life) : Option Nat :=
  match l.stance with
  | .trying _ token => some token
  | _ => l.watch?

/-- Whether there may be a watch. -/
def Stance.MayWatch : Stance → Prop
  | .watching | .crashed => True
  | _ => False

/-- All tokens that were made for watches are cancelled but the one that is held. -/
structure Owned (l : Life) : Prop where
  made : ∀ t ∈ l.issued, t < l.tokens.size
  once : l.issued.Nodup
  rest : ∀ t ∈ l.issued, l.tokens.isCancelled t ∨ l.held? = some t
  watch : ¬ l.stance.MayWatch → l.watch? = none

namespace Owned

/-- The tokens may grow while nothing else changes. -/
theorem of_eq (h : l.Owned) (ht : l.tokens.Grows l'.tokens) (hstance : l'.stance = l.stance)
    (hwatch : l'.watch? = l.watch?) (hissued : l'.issued = l.issued) : l'.Owned := by
  refine ⟨?_, ?_, ?_, ?_⟩
  · rw [hissued]
    exact fun t hi ↦ (h.made t hi).trans_le ht.size
  · exact hissued ▸ h.once
  · rw [hissued, held?, hstance, hwatch]
    exact fun t hi ↦ (h.rest t hi).imp (ht.cancelled t) id
  · rw [hstance, hwatch]
    exact h.watch

/-- When the held token is cancelled all are. -/
theorem all_cancelled (h : l.Owned) {ts : Tokens} (ht : l.tokens.Grows ts)
    (hheld : ∀ t, l.held? = some t → t < l.tokens.size → ts.isCancelled t) :
    ∀ t ∈ l.issued, ts.isCancelled t := by
  intro t hi
  rcases h.rest t hi with hc | hc
  · exact ht.cancelled t hc
  · exact hheld t hc (h.made t hi)

theorem stopWatch_cancelled (h : l.Owned)
    (hstance : ∀ attempt token, l.stance ≠ .trying attempt token) :
    ∀ t ∈ l.issued, l.stopWatch.tokens.isCancelled t := by
  refine h.all_cancelled (goes_stopWatch l).tokens fun t ht hlt ↦ ?_
  have hwatch : l.watch? = some t := by
    unfold held? at ht
    split at ht
    · next hs => exact absurd hs (hstance _ _)
    · exact ht
  rw [stopWatch, hwatch]
  exact Tokens.isCancelled_cancel_self hlt

/-- A new token is held while all others are cancelled. -/
theorem make {ts : Tokens} {doing : Doing} {attempt : Nat} (h : l.Owned)
    (ht : l.tokens.Grows ts) (hc : ∀ t ∈ l.issued, ts.isCancelled t)
    (hd : doing.stance = .trying attempt ts.size) :
    Owned { l with
      tokens := ts.make l.shutdown
      watch? := none
      issued := ts.size :: l.issued
      doing } := by
  refine ⟨?_, ?_, ?_, fun _ ↦ rfl⟩
  · refine List.forall_mem_cons.2 ⟨Nat.lt_succ_self _, fun t hi ↦ ?_⟩
    exact (h.made t hi).trans_le (ht.size.trans (Nat.le_succ _))
  · refine List.nodup_cons.2 ⟨fun hi ↦ ?_, h.once⟩
    exact absurd (h.made _ hi) ht.size.not_gt
  · refine List.forall_mem_cons.2 ⟨.inr ?_, fun t hi ↦ .inl ?_⟩
    · rw [held?, stance, hd]
    · exact (Tokens.Grows.make ts _).cancelled t (hc t hi)

/-- All tokens are cancelled when none is held. -/
theorem of_all {l' : Life} (h : l.Owned) (ht : l.tokens.Grows l'.tokens)
    (hissued : l'.issued = l.issued) (hc : ∀ t ∈ l.issued, l'.tokens.isCancelled t)
    (hwatch : l'.watch? = none) : l'.Owned := by
  refine ⟨?_, ?_, ?_, fun _ ↦ hwatch⟩
  · rw [hissued]
    exact fun t hi ↦ (h.made t hi).trans_le ht.size
  · exact hissued ▸ h.once
  · rw [hissued]
    exact fun t hi ↦ .inl (hc t hi)

end Owned

theorem IsFresh.owned (h : l.IsFresh) : l.Owned := by
  refine ⟨?_, ?_, ?_, fun _ ↦ h.watch⟩
  · rw [h.issued]
    exact List.forall_mem_nil _
  · rw [h.issued]
    exact List.nodup_nil
  · rw [h.issued]
    exact List.forall_mem_nil _

/-- What a step does about the watch leaves all other tokens cancelled. -/
theorem Owned.step (h : l.Owned) (hgoes : Goes l l') (ht : Turns l events l') : l'.Owned := by
  cases ht with
  | aside _ _ hstance hwatch hissued => exact h.of_eq hgoes.tokens hstance hwatch hissued
  | rebuilds hstance hd =>
    refine h.make (goes_stopWatch l).tokens (h.stopWatch_cancelled ?_) hd
    rcases hstance with hstance | ⟨hstance, -⟩ <;> simp [hstance]
  | @reopens attempt time doing hstance ht hd =>
    have hwatch : l.watch? = none := h.watch (by simp [hstance, Stance.MayWatch])
    have hheld : l.held? = none := by rw [held?, hstance, hwatch]
    show Owned { l with
      tokens := l.tokens.make l.shutdown
      watch? := l.watch?
      issued := l.tokens.size :: l.issued
      doing }
    rw [hwatch]
    refine h.make (.refl _) (h.all_cancelled (.refl _) ?_) hd
    simp [hheld]
  | @opens w attempt token acts doing ticks hstance hw hd =>
    have hheld : l.held? = some token := by rw [held?, hstance]
    have hmay : doing.stance.MayWatch := by
      rcases hd with hd | hd <;> simp [hd, Stance.MayWatch]
    refine ⟨h.made, h.once, fun t hi ↦ (h.rest t hi).imp_right fun ht ↦ ?_, fun hnot ↦ ?_⟩
    · obtain rfl : token = t := Option.some.inj (hheld.symm.trans ht)
      rcases hd with hd | hd <;> simp [held?, stance, hd]
    · exact absurd hmay hnot
  | fails hstance hw hlt | exhausts hstance hw hge =>
    -- the token of the attempt was the only one that was not cancelled
    refine h.of_all (.cancel _ _) rfl (h.all_cancelled (.cancel _ _) fun t ht hlt ↦ ?_)
      (h.watch (by simp [hstance, Stance.MayWatch]))
    rw [held?, hstance] at ht
    cases ht
    exact Tokens.isCancelled_cancel_self hlt
  | crashes hstance =>
    have hheld : l.held? = l.watch? := by rw [held?, hstance]
    refine ⟨h.made, h.once, fun t hi ↦ (h.rest t hi).imp_right hheld.symm.trans, fun hnot ↦ ?_⟩
    exact absurd trivial hnot
  | quits hstance hs =>
    have hwatch : l.watch? = none := h.watch (by simp [hstance, Stance.MayWatch])
    have hheld : l.held? = l.watch? := by rw [held?, hstance]
    exact ⟨h.made, h.once, fun t hi ↦ (h.rest t hi).imp_right hheld.symm.trans, fun _ ↦ hwatch⟩
  | stops hstance hr =>
    refine h.of_all (goes_stopWatch l).tokens rfl (h.stopWatch_cancelled ?_) rfl
    simp [hstance]

theorem Run.owned (hl : l.IsFresh) (hr : Run l trace l') : l'.Owned := by
  induction hr with
  | refl => exact hl.owned
  | tail hr hs ih => exact ih.step hs.goes (hs.turns (hr.sound hl))

/-! ## Attempts -/

/-- Whether the watch is given up. -/
def Event.isRebuilding : Event → Bool
  | .rebuilding => true
  | _ => false

/-- The attempt to open a watch that an event begins. -/
def Event.attempt? : Event → Option Piece
  | .begun w => if w.task.isOpening then some w else none
  | _ => none

/-- The attempt to open a watch that an event ends. -/
def Event.attempted? : Event → Option Finished
  | .finished f => if f.piece.task.isOpening then some f else none
  | _ => none

/-- What happened since the watch was last given up. -/
def sinceRebuild (trace : List Event) : List Event :=
  trace.rtakeWhile fun e ↦ !e.isRebuilding

/-- The attempts to open a watch that were begun since it was last given up. -/
def attempts (trace : List Event) : List Piece :=
  (sinceRebuild trace).filterMap Event.attempt?

/-- Those of them that are over. -/
def attempted (trace : List Event) : List Finished :=
  (sinceRebuild trace).filterMap Event.attempted?

theorem sinceRebuild_append (h : ∀ e ∈ events, e.isRebuilding = false) :
    sinceRebuild (trace ++ events) = sinceRebuild trace ++ events := by
  unfold sinceRebuild List.rtakeWhile
  rw [List.reverse_append, List.takeWhile_append_of_pos, List.reverse_append, List.reverse_reverse]
  intro e he
  rw [h e (List.mem_reverse.1 he)]
  rfl

theorem sinceRebuild_append_cons (h : ∀ e ∈ events, e.isRebuilding = false) :
    sinceRebuild (trace ++ .rebuilding :: events) = events := by
  have hcons : trace ++ .rebuilding :: events = trace ++ [.rebuilding] ++ events := by simp
  rw [hcons, sinceRebuild_append h, sinceRebuild,
    List.rtakeWhile_concat_neg _ _ _ (by simp [Event.isRebuilding])]
  rfl

/-- How many attempts were made to open a watch, and how they ended. -/
def Tried (s : AgentSettings) (begun : List Piece) (ended : List Finished)
    (watch? : Option Nat) : Stance → Prop
  | .fresh => begun = [] ∧ ended = []
  | .trying attempt token =>
    attempt ≤ s.attempts ∧ ended.length + 1 = attempt ∧ (∀ f ∈ ended, f.ok = false) ∧
      begun.map Piece.task = ended.map (fun f ↦ f.piece.task) ++ [.opening attempt token]
  | .pausing attempt time =>
    attempt ≤ s.attempts ∧ ended.length + 1 = attempt ∧ (∀ f ∈ ended, f.ok = false) ∧
      begun.map Piece.task = ended.map (fun f ↦ f.piece.task) ∧
      ∀ f ∈ ended.getLast?, f.ended + s.retryDelayMillis ≤ time
  | .watching | .crashed =>
    ended.length ≤ s.attempts ∧ begun.map Piece.task = ended.map (fun f ↦ f.piece.task) ∧
      ∃ f attempt token, ended.getLast? = some f ∧ f.ok ∧ watch? = some token ∧
        f.piece.task = .opening attempt token
  | .ended r =>
    ended.length ≤ s.attempts ∧ begun.map Piece.task = ended.map (fun f ↦ f.piece.task) ∧
      ∀ n, r = .error (.watchExhausted n) → n = s.attempts ∧ ended.length = n ∧
        ∀ f ∈ ended, f.ok = false

/-- After an attempt that failed the agent pauses before the next one. -/
def Spaced (s : AgentSettings) (begun : List Piece) (ended : List Finished) : Prop :=
  ∀ i w, begun[i + 1]? = some w →
    ∃ f, ended[i]? = some f ∧ f.ok = false ∧ f.ended + s.retryDelayMillis ≤ w.began

theorem Spaced.begin (h : Spaced l.settings begun ended) (hlen : begun.length = ended.length)
    (hfailed : ∀ f ∈ ended, f.ok = false)
    (hlast : ∀ f ∈ ended.getLast?, f.ended + l.settings.retryDelayMillis ≤ w.began) :
    Spaced l.settings (begun ++ [w]) ended := by
  intro i w' hw'
  rcases Nat.lt_or_ge (i + 1) begun.length with hi | hi
  · rw [List.getElem?_append_left hi] at hw'
    exact h i w' hw'
  · -- the attempt that is begun now comes after the last one that is over
    obtain ⟨hlt, heq⟩ := List.getElem?_eq_some_iff.1 hw'
    have hi' : i + 1 = begun.length := by
      rw [List.length_append, List.length_singleton] at hlt
      omega
    obtain rfl : w = w' := by
      rw [← heq]
      simp [hi']
    have hi'' : i < ended.length := by omega
    have hget : ended[i]? = some ended[i] := List.getElem?_eq_getElem hi''
    have hlast' : ended.getLast? = some ended[i] := by
      rw [List.getLast?_eq_getElem?, ← hget]
      congr 1
      omega
    exact ⟨ended[i], hget, hfailed _ (List.getElem_mem hi''), hlast _ hlast'⟩

theorem Spaced.finish (h : Spaced l.settings begun ended) (f : Finished) :
    Spaced l.settings begun (ended ++ [f]) := by
  intro i w hw
  obtain ⟨g, hg, hrest⟩ := h i w hw
  exact ⟨g, by rw [List.getElem?_append_left (List.getElem?_eq_some_iff.1 hg).1, hg], hrest⟩

/-- What holds of the attempts at any moment. -/
structure Accounted (l : Life) (begun : List Piece) (ended : List Finished) : Prop where
  tried : Tried l.settings begun ended l.watch? l.stance
  spaced : Spaced l.settings begun ended

theorem Event.IsAside.isRebuilding {e : Event} (h : e.IsAside) : e.isRebuilding = false := by
  cases e with
  | rebuilding => cases h
  | _ => rfl

theorem Event.IsAside.attempt?_eq {e : Event} (h : e.IsAside) : e.attempt? = none := by
  cases e with
  | begun w => exact if_neg (by simp [show w.task.isOpening = false from h])
  | _ => rfl

theorem Event.IsAside.attempted?_eq {e : Event} (h : e.IsAside) : e.attempted? = none := by
  cases e with
  | finished f => exact if_neg (by simp [show f.piece.task.isOpening = false from h])
  | _ => rfl

theorem attempts_append (h : ∀ e ∈ events, e.isRebuilding = false) :
    attempts (trace ++ events) = attempts trace ++ events.filterMap Event.attempt? := by
  rw [attempts, sinceRebuild_append h, List.filterMap_append, attempts]

theorem attempted_append (h : ∀ e ∈ events, e.isRebuilding = false) :
    attempted (trace ++ events) = attempted trace ++ events.filterMap Event.attempted? := by
  rw [attempted, sinceRebuild_append h, List.filterMap_append, attempted]

theorem attempts_append_aside (h : ∀ e ∈ events, e.IsAside) :
    attempts (trace ++ events) = attempts trace := by
  rw [attempts_append fun e he ↦ (h e he).isRebuilding,
    List.filterMap_eq_nil_iff.2 fun e he ↦ (h e he).attempt?_eq, List.append_nil]

theorem attempted_append_aside (h : ∀ e ∈ events, e.IsAside) :
    attempted (trace ++ events) = attempted trace := by
  rw [attempted_append fun e he ↦ (h e he).isRebuilding,
    List.filterMap_eq_nil_iff.2 fun e he ↦ (h e he).attempted?_eq, List.append_nil]

/-- What happens at the end of an attempt. -/
theorem append_attempted (trace : List Event) (acts : List Act) (events : List Event)
    {attempt token : Nat} (hf : f.piece.task = .opening attempt token)
    (h : events.filterMap Event.attempt? = [] ∧ events.filterMap Event.attempted? = [] ∧
      ∀ e ∈ events, e.isRebuilding = false) :
    attempts (trace ++ (acts.map .act ++ .finished f :: events)) = attempts trace ∧
      attempted (trace ++ (acts.map .act ++ .finished f :: events)) = attempted trace ++ [f] := by
  obtain ⟨hattempt, hattempted, hevents⟩ := h
  have hacts : ∀ e ∈ acts.map Event.act, e.IsAside := List.forall_mem_map.2 fun _ _ ↦ trivial
  have hopening : f.piece.task.isOpening := by rw [hf]; rfl
  rw [← List.append_assoc, attempts_append (List.forall_mem_cons.2 ⟨rfl, hevents⟩),
    attempted_append (List.forall_mem_cons.2 ⟨rfl, hevents⟩), attempts_append_aside hacts,
    attempted_append_aside hacts]
  simp [List.filterMap_cons, Event.attempt?, Event.attempted?, hopening, hattempt, hattempted]

/-- What happens when an attempt is begun. -/
theorem append_begun (trace : List Event) (hw : w.task.isOpening) :
    attempts (trace ++ [.begun w]) = attempts trace ++ [w] ∧
      attempted (trace ++ [.begun w]) = attempted trace := by
  have hevents : ∀ e ∈ [Event.begun w], e.isRebuilding = false :=
    List.forall_mem_singleton.2 rfl
  rw [attempts_append hevents, attempted_append hevents]
  simp [Event.attempt?, Event.attempted?, hw]

theorem append_rebuilding (trace : List Event) (hw : w.task.isOpening) :
    attempts (trace ++ [.rebuilding, .begun w]) = [w] ∧
      attempted (trace ++ [.rebuilding, .begun w]) = [] := by
  have hevents : ∀ e ∈ [Event.begun w], e.isRebuilding = false :=
    List.forall_mem_singleton.2 rfl
  rw [attempts, attempted, sinceRebuild_append_cons hevents]
  simp [Event.attempt?, Event.attempted?, hw]

theorem append_returned (trace : List Event) (r : Except AgentError Unit) :
    attempts (trace ++ [.returned r]) = attempts trace ∧
      attempted (trace ++ [.returned r]) = attempted trace := by
  have hevents : ∀ e ∈ [Event.returned r], e.isRebuilding = false :=
    List.forall_mem_singleton.2 rfl
  rw [attempts_append hevents, attempted_append hevents]
  simp [Event.attempt?, Event.attempted?]

theorem Accounted.step (h : Accounted l (attempts trace) (attempted trace)) (hgoes : Goes l l')
    (ht : Turns l events l') :
    Accounted l' (attempts (trace ++ events)) (attempted (trace ++ events)) := by
  obtain ⟨htried, hspaced⟩ := h
  cases ht with
  | aside hevents _ hstance hwatch hissued =>
    rw [attempts_append_aside hevents, attempted_append_aside hevents]
    refine ⟨?_, ?_⟩
    · rw [hgoes.settings, hwatch, hstance]
      exact htried
    · rw [hgoes.settings]
      exact hspaced
  | @rebuilds doing hstance hd =>
    obtain ⟨hattempts, hattempted⟩ := append_rebuilding trace
      (w := { task := .opening 1 l.stopWatch.tokens.size, began := l.now }) rfl
    rw [hattempts, hattempted]
    refine ⟨?_, fun i w hw ↦ by simp at hw⟩
    rw [stance, hd]
    exact ⟨l.settings.one_le_attempts, rfl, List.forall_mem_nil _, rfl⟩
  | @reopens attempt time doing hstance hle hd =>
    obtain ⟨hattempts, hattempted⟩ := append_begun trace
      (w := { task := .opening attempt l.tokens.size, began := l.now }) rfl
    rw [hstance] at htried
    obtain ⟨hmost, hlen, hfailed, htasks, hlast⟩ := htried
    rw [hattempts, hattempted]
    refine ⟨?_, hspaced.begin ?_ hfailed fun f hf ↦ (hlast f hf).trans hle⟩
    · rw [stance, hd]
      refine ⟨hmost, hlen, hfailed, ?_⟩
      rw [List.map_append, htasks]
      rfl
    · simpa using congrArg List.length htasks
  | @opens w attempt token acts doing ticks hstance hw hd =>
    obtain ⟨hattempts, hattempted⟩ := append_attempted trace acts []
      (f := ⟨w, l.now, true⟩) hw (by simp)
    rw [hstance] at htried
    obtain ⟨hmost, hlen, hfailed, htasks⟩ := htried
    have htried : Tried l.settings (attempts trace) (attempted trace ++ [⟨w, l.now, true⟩])
        (some token) .watching := by
      refine ⟨by simp; omega, by simp [htasks, hw], ?_⟩
      exact ⟨_, attempt, token, List.getLast?_concat, rfl, rfl, hw⟩
    rw [hattempts, hattempted]
    refine ⟨?_, hspaced.finish _⟩
    rw [stance]
    rcases hd with hd | hd
    · rwa [hd]
    · rwa [hd]
  | @fails w attempt token acts agent numbers hstance hw hlt =>
    obtain ⟨hattempts, hattempted⟩ := append_attempted trace acts []
      (f := ⟨w, l.now, false⟩) hw (by simp)
    rw [hstance] at htried
    obtain ⟨hmost, hlen, hfailed, htasks⟩ := htried
    rw [hattempts, hattempted]
    refine ⟨⟨hlt, by simp; omega, ?_, by simp [htasks, hw], ?_⟩, hspaced.finish _⟩
    · exact List.forall_mem_append.2 ⟨hfailed, List.forall_mem_singleton.2 rfl⟩
    · rw [List.getLast?_concat]
      rintro f ⟨⟩
      exact le_rfl
  | @exhausts w attempt token acts agent numbers hstance hw hge =>
    obtain ⟨hattempts, hattempted⟩ := append_attempted trace acts
      [.returned (.error (.watchExhausted l.settings.attempts))] (f := ⟨w, l.now, false⟩) hw
      (by simp [Event.attempt?, Event.attempted?, Event.isRebuilding])
    rw [hstance] at htried
    obtain ⟨hmost, hlen, hfailed, htasks⟩ := htried
    rw [hattempts, hattempted]
    refine ⟨⟨by simp; omega, by simp [htasks, hw], fun n hn ↦ ?_⟩, hspaced.finish _⟩
    cases hn
    refine ⟨rfl, by simp; omega, ?_⟩
    exact List.forall_mem_append.2 ⟨hfailed, List.forall_mem_singleton.2 rfl⟩
  | crashes hstance =>
    rw [hstance] at htried
    rw [List.append_nil]
    exact ⟨htried, hspaced⟩
  | quits hstance hs =>
    obtain ⟨hattempts, hattempted⟩ := append_returned trace (.ok ())
    rw [hstance] at htried
    obtain ⟨hmost, hlen, hfailed, htasks, hlast⟩ := htried
    rw [hattempts, hattempted]
    refine ⟨⟨by dsimp only; omega, htasks, fun n hn ↦ ?_⟩, hspaced⟩
    cases hn
  | @stops r hstance hr =>
    obtain ⟨hattempts, hattempted⟩ := append_returned trace r
    rw [hstance] at htried
    obtain ⟨hmost, htasks, -⟩ := htried
    rw [hattempts, hattempted]
    refine ⟨⟨hmost, htasks, fun n hn ↦ ?_⟩, hspaced⟩
    cases hr <;> cases hn

theorem Run.accounted (hl : l.IsFresh) (hr : Run l trace l') :
    Accounted l' (attempts trace) (attempted trace) := by
  induction hr with
  | refl =>
    refine ⟨?_, fun i w hw ↦ by cases hw⟩
    rw [stance, hl.doing]
    exact ⟨rfl, rfl⟩
  | tail hr hs ih => exact ih.step hs.goes (hs.turns (hr.sound hl))

/-! ## Watches that are handed over -/

/-- Whether the watch of an attempt was opened before the stages were listed. -/
def Finished.ListsAfterWatch (f : Finished) : Prop :=
  ∃ (watch : Nat) (stages : List Stage) (opened listed pruned : Nat),
    f.piece.acts = [.called ⟨.watch, .ok watch, opened⟩, .called ⟨.stages, .ok stages, listed⟩,
      .called ⟨.prune ((stages.map Stage.withoutReport).map Stage.key), .ok (), pruned⟩] ++
      delivery (stages.map Stage.withoutReport) true f.ended

theorem Went.listsAfterWatch {most : UInt32} {attempt token : Nat} (h : Went most f) (hok : f.ok)
    (hw : f.piece.task = .opening attempt token) : f.ListsAfterWatch := by
  cases h with
  | failed h => cases hok
  | refused hb h => cases hok
  | @sent w a a' a'' batch time h =>
    rw [show w.task = .opening attempt token from hw] at h
    generalize hacts : w.acts = acts at h
    cases h with
    | again htask _ _ _ => cases htask
    | first h =>
      obtain ⟨calls, calls', ⟨r, a⟩, rfl, h, hr⟩ := Job.Reaches.of_bind h
      cases r with
      | error e => cases hr
      | ok stages =>
        cases hr
        cases Agent.opening_reaches h with
        | opened =>
          exact ⟨_, _, _, _, _, congrArg (· ++ delivery _ true time) hacts⟩

/-! ## Ownership -/

/-- The agent owns its watches. What is said of the attempts since the watch was last given up holds
of every rebuild, as each is the last one for a time. -/
structure OwnsWatches (l : Life) (trace : List Event) : Prop where
  /-- At most one token of a watch is not cancelled. -/
  one : (l.issued.filter fun t ↦ !l.tokens.isCancelled t).length ≤ 1
  /-- All are cancelled when the agent has returned. -/
  none : ∀ r, l.doing = .ended r → ∀ t ∈ l.issued, l.tokens.isCancelled t
  bounded : (attempts trace).length ≤ l.settings.attempts
  /-- An attempt is made only after the one before it failed, and after a pause. -/
  spaced : Spaced l.settings (attempts trace) (attempted trace)
  /-- The agent gives up when no attempt is left and all have failed. -/
  exhausted : ∀ n, l.doing = .ended (.error (.watchExhausted n)) →
    n = l.settings.attempts ∧ (attempted trace).length = n ∧ ∀ f ∈ attempted trace, f.ok = false
  watching : l.doing = .watching → l.watch?.isSome
  /-- The watch is that of the last attempt, and no change after it was opened goes unnoticed. -/
  opened : ∀ token, l.watch? = some token → ∃ f attempt, (attempted trace).getLast? = some f ∧
    f.ok ∧ f.piece.task = .opening attempt token ∧ f.ListsAfterWatch

theorem Owned.length_le_one (h : l.Owned) :
    (l.issued.filter fun t ↦ !l.tokens.isCancelled t).length ≤ 1 := by
  have hmem : ∀ t ∈ l.issued.filter fun t ↦ !l.tokens.isCancelled t, l.held? = some t := by
    intro t ht
    obtain ⟨hi, hc⟩ := List.mem_filter.1 ht
    exact (h.rest t hi).resolve_left (by simpa using hc)
  by_contra hlt
  obtain ⟨t, t', rest, heq⟩ : ∃ t t' rest,
      (l.issued.filter fun t ↦ !l.tokens.isCancelled t) = t :: t' :: rest := by
    match hl : l.issued.filter fun t ↦ !l.tokens.isCancelled t with
    | [] | [_] => simp [hl] at hlt
    | t :: t' :: rest => exact ⟨t, t', rest, rfl⟩
  have hnodup := h.once.filter fun t ↦ !l.tokens.isCancelled t
  rw [heq] at hmem hnodup
  have hsame : t = t' := Option.some.inj ((hmem t (by simp)).symm.trans (hmem t' (by simp)))
  simp [hsame] at hnodup

theorem Accounted.length_le (h : Accounted l begun ended) :
    begun.length ≤ l.settings.attempts := by
  obtain ⟨htried, -⟩ := h
  generalize l.stance = stance at htried
  cases stance with
  | fresh => simp [htried.1]
  | trying attempt token =>
    obtain ⟨hmost, hlen, -, htasks⟩ := htried
    have hbegun := congrArg List.length htasks
    simp at hbegun
    omega
  | pausing attempt time =>
    obtain ⟨hmost, hlen, -, htasks, -⟩ := htried
    have hbegun := congrArg List.length htasks
    simp at hbegun
    omega
  | watching | crashed | ended r =>
    obtain ⟨hmost, htasks, -⟩ := htried
    have hbegun := congrArg List.length htasks
    simp at hbegun
    omega

theorem mem_of_attempted (h : f ∈ attempted trace) : .finished f ∈ trace := by
  obtain ⟨e, he, hf⟩ := List.mem_filterMap.1 h
  have hmem : e ∈ trace := (List.rtakeWhile_suffix _ _).subset he
  cases e with
  | finished g =>
    obtain ⟨-, rfl⟩ : _ ∧ g = f := by simpa [Event.attempted?] using hf
    exact hmem
  | _ => cases hf

theorem Owned.cancelled_of_ended {r : Except AgentError Unit} (h : l.Owned)
    (hd : l.doing = .ended r) : ∀ t ∈ l.issued, l.tokens.isCancelled t := by
  have hstance : l.stance = .ended r := by rw [stance, hd]; rfl
  have hwatch : l.watch? = none := h.watch (by simp [hstance, Stance.MayWatch])
  have hheld : l.held? = none := by rw [held?, hstance, hwatch]
  exact fun t ht ↦ (h.rest t ht).resolve_right (by simp [hheld])

/-- Whatever fails, at every moment of its life the agent owns its watches. -/
theorem owns_watches (hl : l.IsFresh) (hr : Run l trace l') : OwnsWatches l' trace := by
  have howned := hr.owned hl
  have haccounted := hr.accounted hl
  have htried := haccounted.tried
  refine ⟨howned.length_le_one, fun _ ↦ howned.cancelled_of_ended, haccounted.length_le,
    haccounted.spaced, ?_, ?_, ?_⟩
  · intro n hd
    have hstance : l'.stance = .ended (.error (.watchExhausted n)) := by rw [stance, hd]; rfl
    rw [hstance] at htried
    exact htried.2.2 n rfl
  · intro hd
    have hstance : l'.stance = .watching := by rw [stance, hd]; rfl
    rw [hstance] at htried
    obtain ⟨-, -, f, attempt, token, -, -, hwatch, -⟩ := htried
    rw [hwatch]
    rfl
  · intro token htoken
    have hmay : l'.stance.MayWatch := by
      by_contra hnot
      simp [howned.watch hnot] at htoken
    have hlast : ∃ f attempt token, (attempted trace).getLast? = some f ∧ f.ok ∧
        l'.watch? = some token ∧ f.piece.task = .opening attempt token := by
      generalize l'.stance = stance at htried hmay
      cases stance with
      | watching | crashed => exact htried.2.2
      | _ => cases hmay
    obtain ⟨f, attempt, token', hlast, hok, hwatch, hw⟩ := hlast
    obtain rfl : token' = token := Option.some.inj (hwatch.symm.trans htoken)
    refine ⟨f, attempt, hlast, hok, hw, ?_⟩
    have hf := mem_of_attempted (List.mem_of_getLast? hlast)
    exact (hr.went hl hf).2.listsAfterWatch hok hw

/-- The second attempt to open a watch succeeds. -/
theorem second_watch_owned :
    let l := ofSettings {}
    l.IsFresh ∧ ∃ trace l', Run l trace l' ∧ (attempts trace).length = 2 ∧ l'.watch? = some 3 ∧
      OwnsWatches l' trace := by
  intro l
  have hfresh : l.IsFresh := isFresh_ofSettings {}
  have hfails : Agent.Opens l.agent [⟨.watch, .error (.backend "down"), 0⟩] _ _ := .unwatched
  have hopens : Agent.Opens l.agent
    [⟨.watch, .ok 0, 2000⟩, ⟨.stages, .ok [], 2000⟩, ⟨.prune [], .ok (), 2000⟩] _ _ := .opened
  have hstart := Run.tail (.refl l) (.start rfl)
  have hasked := hstart.trans (run_calls rfl (job_opening_reaches hfails)
    (List.forall_mem_singleton.2 ⟨rfl, trivial⟩))
  have hpaused := (hasked.tail (.fail rfl)).tail (.pass (show 0 ≤ 2000 by decide))
  have hagain := (hpaused.tail (.wake rfl (Nat.le_refl 2000))).trans
    (run_calls rfl (job_opening_reaches hopens) (by
      simp only [List.forall_mem_cons]
      exact ⟨⟨rfl, trivial⟩, ⟨rfl, trivial⟩, ⟨rfl, trivial⟩, List.forall_mem_nil _⟩))
  have hwatches := (hagain.tail (.yield rfl)).tail
    (.send rfl (show CommitChannel.send { capacity := 1 } [] = .sent _ from rfl))
  exact ⟨hfresh, _, _, hwatches, rfl, rfl, owns_watches hfresh hwatches⟩

end Life

end StageRelay
