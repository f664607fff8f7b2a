import StageRelay.Proofs.Life.Pieces

/-!
# What a step does about the watch

As for its watch, an agent either tries to open one, waits until it may try again, or has one and
does whatever there is to do. Every step that is about the watch is one of a few.
-/

namespace StageRelay

namespace Life

/-! ## Stances -/

/-- What the agent does as for its watch. -/
inductive Stance where
  | fresh
  /-- It tries to open a watch, with the token that was made for it. -/
  | trying (attempt token : Nat)
  | pausing (attempt time : Nat)
  /-- It has a watch. -/
  | watching
  | ended (r : Except AgentError Unit)
  | crashed

/-- A task as for the watch. -/
def Task.stance : Task → Stance
  | .opening attempt token => .trying attempt token
  | _ => .watching

/-- What is done as for the watch. -/
def Doing.stance : Doing → Stance
  | .fresh => .fresh
  | .working w _ | .sending w _ => w.task.stance
  | .pausing attempt time => .pausing attempt time
  | .watching => .watching
  | .ended r => .ended r
  | .crashed => .crashed

/-- What the agent does as for its watch. -/
def stance (l : Life) : Stance := l.doing.stance

/-- Whether an event is not about the watch. -/
def Event.IsAside : Event → Prop
  | .act _ => True
  | .begun w => w.task.isOpening = false
  | .finished f => f.piece.task.isOpening = false
  | _ => False

theorem Task.stance_of_not_isOpening {task : Task} (h : task.isOpening = false) :
    task.stance = .watching := by
  cases task with
  | opening attempt token => cases h
  | _ => rfl

/-! ## Turns -/

variable {l l' : Life} {trace events : List Event}

/-- The result of an agent that has a watch and stops, depending on its tokens. -/
inductive Stops (l : Life) : Except AgentError Unit → Prop
  | shutDown (hs : l.isShutDown) : Stops l (.ok ())
  | deposed (hs : l.isShutDown = false) (hl : l.isDeposed) : Stops l (.error .leadershipLost)

/-- What a step does about the watch. -/
inductive Turns (l : Life) : List Event → Life → Prop
  /-- It is not about the watch. -/
  | aside {events : List Event} {l' : Life} (hevents : ∀ e ∈ events, e.IsAside)
    (hbegun : ∀ w, .begun w ∈ events → l.isCancelled = false) (hstance : l'.stance = l.stance)
    (hwatch : l'.watch? = l.watch?) (hissued : l'.issued = l.issued) : Turns l events l'
  /-- The watch is given up, if there is one, and opened anew. -/
  | rebuilds {doing : Doing}
    (hstance : l.stance = .fresh ∨ l.stance = .watching ∧ l.isCancelled = false)
    (hd : doing.stance = .trying 1 l.stopWatch.tokens.size) :
    Turns l [.rebuilding, .begun { task := .opening 1 l.stopWatch.tokens.size, began := l.now }]
      { l with
        tokens := l.stopWatch.tokens.make l.shutdown
        watch? := none
        issued := l.stopWatch.tokens.size :: l.issued
        doing }
  /-- The pause is over. -/
  | reopens {attempt time : Nat} {doing : Doing} (hstance : l.stance = .pausing attempt time)
    (ht : time ≤ l.now) (hd : doing.stance = .trying attempt l.tokens.size) :
    Turns l [.begun { task := .opening attempt l.tokens.size, began := l.now }]
      { l with
        tokens := l.tokens.make l.shutdown
        issued := l.tokens.size :: l.issued
        doing }
  | opens {w : Piece} {attempt token : Nat} {acts : List Act} {doing : Doing} {ticks : Bool}
    (hstance : l.stance = .trying attempt token) (hw : w.task = .opening attempt token)
    (hd : doing.stance = .watching ∨ doing.stance = .crashed) :
    Turns l (acts.map .act ++ [.finished ⟨w, l.now, true⟩])
      { l with watch? := some token, ticks, doing }
  | fails {w : Piece} {attempt token : Nat} {acts : List Act} {agent : AgentState}
    {numbers : List Nat}
    (hstance : l.stance = .trying attempt token) (hw : w.task = .opening attempt token)
    (hlt : attempt < l.settings.attempts) :
    Turns l (acts.map .act ++ [.finished ⟨w, l.now, false⟩])
      { l with
        agent, numbers
        tokens := l.tokens.cancel token
        doing := .pausing (attempt + 1) (l.now + l.settings.retryDelayMillis) }
  | exhausts {w : Piece} {attempt token : Nat} {acts : List Act} {agent : AgentState}
    {numbers : List Nat}
    (hstance : l.stance = .trying attempt token) (hw : w.task = .opening attempt token)
    (hge : l.settings.attempts ≤ attempt) :
    Turns l (acts.map .act ++
        [.finished ⟨w, l.now, false⟩, .returned (.error (.watchExhausted l.settings.attempts))])
      { l with
        agent, numbers
        tokens := l.tokens.cancel token
        doing := .ended (.error (.watchExhausted l.settings.attempts)) }
  | crashes (hstance : l.stance = .watching) : Turns l [] { l with doing := .crashed }
  /-- A shutdown is noticed while the agent pauses. -/
  | quits {attempt time : Nat} (hstance : l.stance = .pausing attempt time) (hs : l.isShutDown) :
    Turns l [.returned (.ok ())] { l with doing := .ended (.ok ()) }
  | stops {r : Except AgentError Unit} (hstance : l.stance = .watching) (hr : l.Stops r) :
    Turns l [.returned r] { l.stopWatch with doing := .ended r }

/-- The end of a piece of work is about the watch if the piece is. -/
theorem Closes.turns {w : Piece} {ok : Bool} {agent : AgentState} {numbers : List Nat}
    (h : Closes { l with agent, numbers } w ok events l') (acts : List Act)
    (hstance : l.stance = w.task.stance)
    (hkeep : ok = true → agent = l.agent ∧ numbers = l.numbers) :
    Turns l (acts.map .act ++ events) l' := by
  have hacts {e : Event} (he : e ∈ acts.map Event.act) : e.IsAside := by
    obtain ⟨x, -, rfl⟩ := List.mem_map.1 he
    trivial
  cases h with
  | watched hw =>
    obtain ⟨rfl, rfl⟩ := hkeep rfl
    exact .opens (by rw [hstance, hw]; rfl) hw (.inl rfl)
  | stalled hw hi =>
    obtain ⟨rfl, rfl⟩ := hkeep rfl
    exact .opens (by rw [hstance, hw]; rfl) hw (.inr rfl)
  | paused hw hlt => exact .fails (by rw [hstance, hw]; rfl) hw hlt
  | exhausted hw hge => exact .exhausts (by rw [hstance, hw]; rfl) hw hge
  | again hw =>
    refine .aside ?_ ?_ hstance.symm rfl rfl
    · rw [List.append_nil]
      exact fun e ↦ hacts
    · simp
  | back hw hok =>
    refine .aside ?_ ?_ (hstance.trans (Task.stance_of_not_isOpening hw)).symm rfl rfl
    · intro e he
      rcases List.mem_append.1 he with he | he
      · exact hacts he
      · obtain rfl := List.mem_singleton.1 he
        exact hw
    · simp

/-- What a step that takes up other work does about the watch. -/
theorem turns_take {x : Life} {task : Task} (hstance : l.stance = .watching)
    (hc : l.isCancelled = false) (htask : task.isOpening = false) (hwatch : x.watch? = l.watch?)
    (hissued : x.issued = l.issued) : Turns l (x.take task).1 (x.take task).2 := by
  refine .aside ?_ (fun _ _ ↦ hc) ?_ hwatch hissued
  · exact List.forall_mem_singleton.2 htask
  · exact (Task.stance_of_not_isOpening htask).trans hstance.symm

theorem Step.turns (h : l.Sound) (hs : Step l events l') : Turns l events l' := by
  cases hs with
  | pass hle => exact .aside (List.forall_mem_nil _) nofun rfl rfl rfl
  | cancel token => exact .aside (List.forall_mem_nil _) nofun rfl rfl rfl
  | subscribe parent => exact .aside (List.forall_mem_nil _) nofun rfl rfl rfl
  | start hd => exact .rebuilds (.inl (by rw [stance, hd]; rfl)) rfl
  | call hd b hb =>
    refine .aside (List.forall_mem_singleton.2 trivial) (by simp) ?_ rfl rfl
    rw [stance, stance, hd]
    rfl
  | yield hd =>
    refine .aside (List.forall_mem_nil _) nofun ?_ rfl rfl
    rw [stance, stance, hd]
    rfl
  | @crash w agent hd =>
    obtain ⟨-, a, h⟩ := (sound_working hd).1 h
    obtain ⟨number, n, hw⟩ := h.of_crashed
    exact .crashes (by rw [stance, hd, Doing.stance, hw]; rfl)
  | @fail w e agent hd =>
    exact (abandon_closes (l.keep w.task agent) w).turns [] (by rw [stance, hd]; rfl) nofun
  | @send w batch channel channel' hd hc =>
    exact (finish_closes l (w.add _)).turns _ (by rw [stance, hd]; rfl) fun _ ↦ ⟨rfl, rfl⟩
  | @refuse w batch channel hd hc =>
    exact (abandon_closes l (w.add _)).turns _ (by rw [stance, hd]; rfl) nofun
  | wake hd ht => exact .reopens (by rw [stance, hd]; rfl) ht rfl
  | quit hd hs => exact .quits (by rw [stance, hd]; rfl) hs
  | stop hd hs => exact .stops (by rw [stance, hd]; rfl) (.shutDown hs)
  | stepDown hd hs hl => exact .stops (by rw [stance, hd]; rfl) (.deposed hs hl)
  | lose hd hc => exact .rebuilds (.inr ⟨by rw [stance, hd]; rfl, hc⟩) rfl
  | hear hd hc n => exact turns_take (by rw [stance, hd]; rfl) hc rfl rfl rfl
  | retry hd hc he hn ht => exact turns_take (by rw [stance, hd]; rfl) hc rfl rfl rfl
  | tick hd hc => exact turns_take (by rw [stance, hd]; rfl) hc rfl rfl rfl

end Life

end StageRelay
