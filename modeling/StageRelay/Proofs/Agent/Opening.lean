import StageRelay.Agent.Basic
import StageRelay.Proofs.Work.Executions

/-!
# Attempts to open a watch

A watch is opened before the stages are listed, so that no change after that goes unnoticed. Nothing
is withdrawn unless the stages could be listed, and there is a batch only if all of it succeeded.
-/

namespace StageRelay.Agent

/-- Opens a watch and starts afresh. -/
def opening : Attempt (List Stage) := do
  let _ ← orThrow .registry (← attempt .watch)
  bootstrap

/-- The calls of a start. -/
theorem run_bootstrap_eq (a : AgentState) : bootstrap.run.run a = .call .stages fun r ↦
    match r with
    | .error e => .done (.error (.registry e), a)
    | .ok stages => .call (.prune ((stages.map Stage.withoutReport).map Stage.key)) fun r ↦
      match r with
      | .error e => .done (.error (.sync e), a)
      | .ok _ => .done (.ok (stages.map Stage.withoutReport),
        { a with directory := a.directory.prune (stages.map Stage.withoutReport) }) := by
  show Job.call _ _ = Job.call _ _
  congr 1
  funext r
  cases r with
  | error e => rfl
  | ok stages =>
    show Job.call _ _ = Job.call _ _
    congr 1
    funext r
    cases r <;> rfl

/-- With a watch the agent starts afresh. -/
theorem run_opening_eq_bootstrap (a : AgentState) : opening.run.run a = .call .watch fun r ↦
    match r with
    | .error e => .done (.error (.registry e), a)
    | .ok _ => bootstrap.run.run a := by
  show Job.call _ _ = Job.call _ _
  congr 1
  funext r
  cases r <;> rfl

/-- The calls of an attempt to open a watch. -/
theorem run_opening_eq (a : AgentState) : opening.run.run a = .call .watch fun r ↦
    match r with
    | .error e => .done (.error (.registry e), a)
    | .ok _ => .call .stages fun r ↦
      match r with
      | .error e => .done (.error (.registry e), a)
      | .ok stages => .call (.prune ((stages.map Stage.withoutReport).map Stage.key)) fun r ↦
        match r with
        | .error e => .done (.error (.sync e), a)
        | .ok _ => .done (.ok (stages.map Stage.withoutReport),
          { a with directory := a.directory.prune (stages.map Stage.withoutReport) }) := by
  simp only [run_opening_eq_bootstrap, run_bootstrap_eq]

/-- How an attempt to open a watch goes: the calls, the batch unless it failed, and what is
kept. -/
inductive Opens (a : AgentState) :
    List Answered → Except AgentError (List Stage) → AgentState → Prop
  | unwatched {e : RegistryError} {time : Nat} :
    Opens a [⟨.watch, .error e, time⟩] (.error (.registry e)) a
  | unlisted {watch : Nat} {e : RegistryError} {time time' : Nat} :
    Opens a [⟨.watch, .ok watch, time⟩, ⟨.stages, .error e, time'⟩] (.error (.registry e)) a
  | unpruned {watch : Nat} {stages : List Stage} {e : SyncError} {time time' time'' : Nat} :
    Opens a [⟨.watch, .ok watch, time⟩, ⟨.stages, .ok stages, time'⟩,
      ⟨.prune ((stages.map Stage.withoutReport).map Stage.key), .error e, time''⟩]
      (.error (.sync e)) a
  | opened {watch : Nat} {stages : List Stage} {time time' time'' : Nat} :
    Opens a [⟨.watch, .ok watch, time⟩, ⟨.stages, .ok stages, time'⟩,
      ⟨.prune ((stages.map Stage.withoutReport).map Stage.key), .ok (), time''⟩]
      (.ok (stages.map Stage.withoutReport))
      { a with directory := a.directory.prune (stages.map Stage.withoutReport) }

theorem opening_reaches {a a' : AgentState} {calls : List Answered}
    {r : Except AgentError (List Stage)}
    (h : (opening.run.run a).Reaches calls (.done (r, a'))) : Opens a calls r a' := by
  rw [run_opening_eq] at h
  cases h with
  | @call _ _ _ answer _ _ _ h =>
    cases answer with
    | error e =>
      cases h
      exact .unwatched
    | ok watch =>
      cases h with
      | @call _ _ _ answer _ _ _ h =>
        cases answer with
        | error e =>
          cases h
          exact .unlisted
        | ok stages =>
          cases h with
          | @call _ _ _ answer _ _ _ h =>
            cases answer with
            | error e =>
              cases h
              exact .unpruned
            | ok u =>
              cases h
              exact .opened

/-- All of these may happen. -/
theorem Opens.reaches {a a' : AgentState} {calls : List Answered}
    {r : Except AgentError (List Stage)} (h : Opens a calls r a') :
    (opening.run.run a).Reaches calls (.done (r, a')) := by
  rw [run_opening_eq]
  cases h with
  | unwatched => exact .call (.refl _)
  | unlisted => exact .call (.call (.refl _))
  | unpruned => exact .call (.call (.call (.refl _)))
  | opened => exact .call (.call (.call (.refl _)))

/-- An attempt to open a watch queues nothing. -/
theorem Opens.retries {a a' : AgentState} {calls : List Answered}
    {r : Except AgentError (List Stage)} (h : Opens a calls r a') : a'.retries = a.retries := by
  cases h <;> rfl

end StageRelay.Agent
