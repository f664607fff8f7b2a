import Mathlib.Data.List.Induction
import StageRelay.Registry.Basic

/-!
# The history of a registry

What a registry is asked, one request after the other, and what comes of each request: what is
stored and removed, which notices are made, which watches begin and end, and what they yield. That a
watch is cancelled and that the registry lets go of it, so that this takes effect, are two requests
with any others in between.
-/

namespace StageRelay

namespace Registry

/-- What a registry is asked. -/
inductive Request where
  | put (r : Resource)
  | remove (kind : Kind) (key : ResourceKey)
  | emit (n : Notice)
  | watch
  | cancel (i : Nat)
  | release (i : Nat)
  | closeWatches
  | receive (i : Nat)

/-- What happens to a registry. -/
inductive Event where
  /-- A resource is there from the beginning. -/
  | seeded (r : Resource)
  | put (r : Resource)
  /-- A resource is asked to be removed, and it was this one if it was there. -/
  | removed (kind : Kind) (key : ResourceKey) (old? : Option Resource)
  | emitted (n : Notice)
  | opened (i : Nat)
  | cancelled (i : Nat)
  /-- The registry is to let go of a watch, which ends it if it was cancelled. -/
  | released (i : Nat)
  | closedAll
  | received (i : Nat) (n : Notice)
  /-- A watch has nothing to yield for now. -/
  | waited (i : Nat)
  /-- A watch will never yield anything again. -/
  | ended (i : Nat)

/-- What comes of a request. -/
def serve (reg : Registry) : Request → Event × Registry
  | .put r => (.put r, reg.put r)
  | .remove kind key => (.removed kind key (reg.remove kind key).1, (reg.remove kind key).2)
  | .emit n => (.emitted n, reg.emit n)
  | .watch => (.opened reg.watch.1, reg.watch.2)
  | .cancel i => (.cancelled i, reg.cancel i)
  | .release i => (.released i, reg.release i)
  | .closeWatches => (.closedAll, reg.closeWatches)
  | .receive i =>
    match reg.receive i with
    | .notice n rest => (.received i n, reg.setWatch i rest)
    | .waiting => (.waited i, reg)
    | .closed => (.ended i, reg)

/-- A registry and what happened to it, the latest first. -/
structure Chronicle where
  events : List Event := []
  registry : Registry := {}

namespace Chronicle

/-- A registry that holds resources and has no watches yet. -/
def start (rs : List Resource) : Chronicle where
  events := (rs.map .seeded).reverse
  registry := { store := .ofResources rs }

/-- The chronicle after one more request. -/
def ask (c : Chronicle) (q : Request) : Chronicle where
  events := (c.registry.serve q).1 :: c.events
  registry := (c.registry.serve q).2

/-- The chronicle of a registry that begins with resources and gets requests. -/
def of (rs : List Resource) (qs : List Request) : Chronicle :=
  qs.foldl ask (start rs)

theorem of_append (rs : List Resource) (qs qs' : List Request) :
    of rs (qs ++ qs') = qs'.foldl ask (of rs qs) :=
  List.foldl_append

/-- The chronicle after one more resource at the beginning. -/
def seed (c : Chronicle) (r : Resource) : Chronicle where
  events := .seeded r :: c.events
  registry := { c.registry with store := c.registry.store.put r }

theorem start_concat (rs : List Resource) (r : Resource) :
    start (rs ++ [r]) = (start rs).seed r := by
  simp [start, seed, Store.ofResources]

/-- What holds of nothing and is kept by every resource and every request holds always. -/
theorem induction {motive : Chronicle → Prop} (empty : motive {})
    (seed : ∀ c r, motive c → motive (c.seed r)) (ask : ∀ c q, motive c → motive (c.ask q))
    (rs : List Resource) (qs : List Request) : motive (of rs qs) := by
  induction qs using List.reverseRecOn with
  | nil =>
    induction rs using List.reverseRecOn with
    | nil => exact empty
    | append_singleton rs r ih =>
      show motive (start (rs ++ [r]))
      rw [start_concat]
      exact seed _ r ih
  | append_singleton qs q ih =>
    rw [of_append]
    exact ask _ q ih

end Chronicle

end Registry

end StageRelay
