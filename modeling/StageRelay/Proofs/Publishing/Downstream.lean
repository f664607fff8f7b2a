import StageRelay.Pipeline.Services
import StageRelay.Proofs.Publishing.Content

/-!
# What is published

A publisher keeps one configuration for each stage until it is told to flush. Then it publishes what
it kept, or drops it if that fails. What it has published can be read off the log of the services.
-/

namespace StageRelay

/-- What a publisher keeps, and what it has published, by the names of gateway and stage. -/
structure Downstream where
  kept : String → String → Option Configuration := fun _ _ ↦ none
  published : String → String → Option Configuration := fun _ _ ↦ none

namespace Downstream

/-- The stages with the given keys only. -/
def restrict (existing : List String) (f : String → String → Option Configuration)
    (gateway stage : String) : Option Configuration :=
  if existing.contains (gateway ++ "/" ++ stage) then f gateway stage else none

/-- What a deed makes of it. -/
def after (d : Downstream) : Deed → Downstream
  | .sync gateway stage c =>
    { d with kept := fun g n ↦ if g = gateway ∧ n = stage then some c else d.kept g n }
  | .flush true => { published := fun g n ↦ (d.kept g n).or (d.published g n) }
  | .flush false => { published := d.published }
  | .prune existing =>
    { kept := restrict existing d.kept, published := restrict existing d.published }
  | .report _ _ => d

/-- The last configuration that was published for a stage; at first it is the empty one. -/
def current (d : Downstream) (s : Stage) : Configuration :=
  (d.published s.gateway s.name).getD (.empty s.gateway s.name)

/-- The configuration that is kept for a stage. -/
def kept? (d : Downstream) (s : Stage) : Option Configuration :=
  d.kept s.gateway s.name

variable {d : Downstream} {s : Stage}

theorem kept?_after_sync (gateway stage : String) (c : Configuration) :
    (d.after (.sync gateway stage c)).kept? s =
      if s.gateway = gateway ∧ s.name = stage then some c else d.kept? s := rfl

theorem current_after_flush :
    (d.after (.flush true)).current s = (d.kept? s).getD (d.current s) := by
  simp only [after, current, kept?]
  cases d.kept s.gateway s.name with
  | none => rfl
  | some c => rfl

end Downstream

/-- What the publisher has made of all that was asked of it. -/
def Services.downstream (s : Services) : Downstream :=
  s.deeds.foldr (fun e d ↦ d.after e.2) {}

@[simp] theorem Services.downstream_log (s : Services) (d : Deed) :
    (s.log d).downstream = s.downstream.after d := rfl

end StageRelay
