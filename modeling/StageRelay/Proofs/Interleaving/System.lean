import Mathlib.Logic.Relation
import StageRelay.Pipeline.Basic
import StageRelay.Proofs.Debounce
import StageRelay.Proofs.RetryQueue
import StageRelay.Proofs.Work.Alone

/-!
# Interleavings

The agent, the committer and those who change the registry, step by step. A step of a party is one
call on a service, so that between any two calls of a job the other parties may do anything they do:
the registry may change between two reads of a handler, commits of one segment run side by side, and
what failed for one call may work for the next.

There is one watch, and it is never full when the registry changes; nothing else in between is
assumed of the parties.
-/

namespace StageRelay

/-! ## The registry -/

namespace Registry

/-- The notices that a watch has not yielded yet. -/
def buffer (r : Registry) (i : Nat) : List Notice :=
  (r.watches[i]?).elim [] Watch.buffer

/-- An open watch with room for one more notice. -/
def HasRoom (r : Registry) (i : Nat) : Prop :=
  ∃ w, r.watches[i]? = some w ∧ w.isOpen ∧ w.buffer.length < Watch.capacity

variable {r : Registry} {i : Nat}

/-- A notice joins those that wait on a watch with room. -/
theorem buffer_notify {st : Store} {n : Notice} (hr : r.HasRoom i) :
    (Registry.mk st (r.watches.notify n)).buffer i = r.buffer i ++ [n] := by
  obtain ⟨w, hw, hopen, hroom⟩ := hr
  simp [buffer, Watches.notify, hw, Watch.offer, hopen, hroom]

/-- One more watch takes nothing from the others. -/
theorem buffer_watch (hi : i < r.watches.length) : r.watch.2.buffer i = r.buffer i := by
  rw [buffer, buffer, watch, Watches.openOne, List.getElem?_append_left hi]

/-- The notice that is received is the first that waited. -/
theorem buffer_receive {n : Notice} {rest : Watch} (h : r.receive i = .notice n rest) :
    r.buffer i = n :: (r.setWatch i rest).buffer i := by
  unfold receive at h
  split at h
  · next w hw =>
    obtain ⟨hi, hget⟩ := List.getElem?_eq_some_iff.1 hw
    unfold Watch.next at h
    split at h
    · next hbuffer =>
      obtain ⟨rfl, rfl⟩ := Watch.Next.notice.inj h
      simp [buffer, setWatch, hget, hi, hbuffer]
    · split at h <;> cases h
  · cases h

end Registry

/-- What may happen in a run: what is put and removed, and which calls of the agent are
answered. -/
structure Rules where
  puts : Resource → Prop
  removes : Kind → ResourceKey → Prop
  answers : {β : Type} → Call β → Bool

/-- A change of the registry that a watch hears of. -/
inductive Registry.Change (rules : Rules) (i : Nat) : Registry → Registry → Prop
  | put {r : Registry} {resource : Resource} (hp : rules.puts resource) (hr : r.HasRoom i) :
    Change rules i r (r.put resource)
  | remove {r : Registry} {kind : Kind} {key : ResourceKey} (hp : rules.removes kind key)
    (hr : r.HasRoom i) : Change rules i r (r.remove kind key).2

/-! ## States -/

/-- What the agent is doing. -/
inductive Activity where
  | idle
  /-- It works on a notice or, without one, on a tick; the job is what is left to do. -/
  | working (n? : Option Notice) (job : Job (Agent.Handled × AgentState))
  /-- It waits for room in the channel. -/
  | sending (batch : List Stage)
  | crashed

/-- A commit that runs: its stage, and what is left to do. -/
structure CommitTask where
  stage : Stage
  job : Job (Except CommitFailure Unit)

/-- How far the committer is with a segment. -/
inductive Progress where
  | idle
  | committing (running : List CommitTask) (ended : List Commit.Ended)
  /-- All commits of the segment have ended; the job is what is left to do. -/
  | ending (segment : List Stage) (job : Job Unit)

/-- The stages whose commits are under way. -/
def Progress.stages : Progress → List Stage
  | .idle => []
  | .committing running ended => running.map CommitTask.stage ++ ended.map Commit.Ended.stage
  | .ending segment _ => segment

/-- The stages that the agent is busy with. -/
def Activity.stages : Activity → List Stage
  | .working (some n) _ => [n.stage]
  | .sending batch => batch
  | _ => []

/-- The parties and what lies between them. -/
structure System where
  services : Services
  maxRetries : UInt32
  segmentSize : Nat
  /-- The watch of the agent. -/
  watch : Nat
  /-- What the agent keeps while it is not working. -/
  agent : AgentState
  activity : Activity := .idle
  channel : CommitChannel
  /-- The segments of the current batch that are still to be committed. -/
  segments : List (List Stage) := []
  progress : Progress := .idle

namespace System

/-- The objects of the registry. -/
def store (x : System) : Store := x.services.registry.store

/-- The notices that the agent has not received yet. -/
def buffer (x : System) : List Notice := x.services.registry.buffer x.watch

/-- The stages that are still to be committed, from those that a notice is about to those whose
segment comes next. -/
def queued (x : System) : List Stage :=
  x.buffer.map Notice.stage ++ x.activity.stages ++ x.services.debouncer.stages ++
    x.channel.batches.flatten ++ x.segments.flatten

/-- Whether a stage is still to be committed, or is being committed. -/
def Pending (x : System) (s : Stage) : Prop :=
  ∃ t ∈ x.queued ++ x.progress.stages, t.same s

instance (x : System) (s : Stage) : Decidable (x.Pending s) :=
  inferInstanceAs (Decidable (∃ t ∈ x.queued ++ x.progress.stages, t.same s))

/-- The system with another registry. -/
def withRegistry (x : System) (r : Registry) : System :=
  { x with services := { x.services with registry := r } }

/-- Goes on with work of the agent, or ends it. -/
def resume (x : System) (n? : Option Notice) : Job (Agent.Handled × AgentState) → System
  | .done (.batch batch, agent) => { x with agent, activity := .sending batch }
  | .done (.crashed, agent) => { x with agent, activity := .crashed }
  | .call c next => { x with activity := .working n? (.call c next) }

/-- Lets the agent handle a notice. -/
def handle (x : System) (n : Notice) : System :=
  x.resume n ((Agent.handle x.maxRetries n).run x.agent)

/-- Lets the agent tick. -/
def tick (x : System) : System :=
  x.resume none ((Agent.tick.run x.agent).bind fun (batch, agent) ↦ .done (.batch batch, agent))

/-- Starts the commits of a segment. -/
def beginSegment (x : System) (segment : List Stage) : System :=
  match Commit.committable segment with
  | [] => x
  | stages =>
    { x with progress := .committing (stages.map fun s ↦ ⟨s, Commit.commitStage s⟩) [] }

/-- Goes on with the end of a segment. -/
def resumeEnding (x : System) (segment : List Stage) : Job Unit → System
  | .done () => { x with progress := .idle }
  | .call c next => { x with progress := .ending segment (.call c next) }

/-! ## Steps -/

/-- A step of some party. -/
inductive Step (rules : Rules) : System → System → Prop
  /-- Somebody changes the registry. -/
  | change {x : System} {r : Registry} (h : x.services.registry.Change rules x.watch r) :
    Step rules x (x.withRegistry r)
  /-- Time passes, and other things fail from now on. -/
  | pass {x : System} (now : Nat) (faults : Faults) (strictNames : Bool) (crashing : List String)
    (h : x.services.now ≤ now) :
    Step rules x { x with services := { x.services with now, faults, strictNames, crashing } }
  | hear {x : System} {n : Notice} {rest : Watch} (hi : x.activity = .idle)
    (h : x.services.registry.receive x.watch = .notice n rest) :
    Step rules x ((x.withRegistry (x.services.registry.setWatch x.watch rest)).handle n)
  | retry {x : System} {n : Notice} {retries : RetryQueue} (hi : x.activity = .idle)
    (h : x.agent.retries.Yields x.services.now n retries) :
    Step rules x ({ x with agent := { x.agent with retries } }.handle n)
  | tick {x : System} (hi : x.activity = .idle) : Step rules x x.tick
  | work {x : System} {n? : Option Notice} {β : Type} {c : Call β}
    {next : β → Job (Agent.Handled × AgentState)} (ha : x.activity = .working n? (.call c next))
    (hc : rules.answers c) :
    Step rules x
      ({ x with services := (x.services.answer c).2 }.resume n? (next (x.services.answer c).1))
  /-- The stages that were due at once are sent in any order. -/
  | send {x : System} {batch due : List Stage} {channel : CommitChannel}
    (ha : x.activity = .sending due) (hb : batch.Perm due)
    (h : x.channel.send batch = .sent channel) :
    Step rules x { x with activity := .idle, channel }
  | receive {x : System} {batch : List Stage} {channel : CommitChannel} (hp : x.progress = .idle)
    (hs : x.segments = []) (h : x.channel.receive? = some (batch, channel)) :
    Step rules x { x with channel, segments := Commit.segments x.segmentSize batch }
  | begin {x : System} {segment : List Stage} {segments : List (List Stage)}
    (hp : x.progress = .idle) (hs : x.segments = segment :: segments) :
    Step rules x ({ x with segments }.beginSegment segment)
  | commit {x : System} {s : Stage} {β : Type} {c : Call β}
    {next : β → Job (Except CommitFailure Unit)} {before after : List CommitTask}
    {ended : List Commit.Ended}
    (hp : x.progress = .committing (before ++ ⟨s, .call c next⟩ :: after) ended) :
    Step rules x
      { x with
        services := (x.services.answer c).2
        progress := .committing (before ++ ⟨s, next (x.services.answer c).1⟩ :: after) ended }
  /-- A commit crashes, wherever it is. -/
  | crash {x : System} {s : Stage} {β : Type} {c : Call β}
    {next : β → Job (Except CommitFailure Unit)} {before after : List CommitTask}
    {ended : List Commit.Ended}
    (hp : x.progress = .committing (before ++ ⟨s, .call c next⟩ :: after) ended) :
    Step rules x
      { x with progress := .committing (before ++ ⟨s, .done (.error .crashed)⟩ :: after) ended }
  /-- The committer takes note of the end of a commit. -/
  | join {x : System} {s : Stage} {result : Except CommitFailure Unit}
    {before after : List CommitTask} {ended : List Commit.Ended}
    (hp : x.progress = .committing (before ++ ⟨s, .done result⟩ :: after) ended) :
    Step rules x
      { x with
        services := ((Commit.join s result).run Services.host x.services).2
        progress := .committing (before ++ after) (ended ++ [⟨s, result⟩]) }
  | finish {x : System} {ended : List Commit.Ended} (hp : x.progress = .committing [] ended) :
    Step rules x (x.resumeEnding (ended.map Commit.Ended.stage) (Commit.endSegment ended))
  | conclude {x : System} {segment : List Stage} {β : Type} {c : Call β} {next : β → Job Unit}
    (hp : x.progress = .ending segment (.call c next)) :
    Step rules x
      ({ x with services := (x.services.answer c).2 }.resumeEnding segment
        (next (x.services.answer c).1))

/-- Any number of steps. -/
abbrev Run (rules : Rules) : System → System → Prop :=
  Relation.ReflTransGen (Step rules)

end System

/-! ## What is stored -/

namespace System

variable {rules : Rules} {x y : System}

@[simp] theorem store_resume (x : System) (n? : Option Notice)
    (job : Job (Agent.Handled × AgentState)) : (x.resume n? job).store = x.store := by
  rcases job with ⟨- | -, -⟩ | - <;> rfl

@[simp] theorem store_resumeEnding (x : System) (segment : List Stage) (job : Job Unit) :
    (x.resumeEnding segment job).store = x.store := by
  cases job <;> rfl

/-- Only those who change the registry change what is stored. -/
theorem Step.store (h : x.Step rules y) : y.store = x.store ∨
    ∃ r, x.services.registry.Change rules x.watch r ∧ y.store = r.store := by
  cases h with
  | change hc => exact .inr ⟨_, hc, rfl⟩
  | hear hi hn => exact .inl (store_resume _ _ _)
  | retry hi hn => exact .inl (store_resume _ _ _)
  | tick hi => exact .inl (store_resume _ _ _)
  | work ha hc => exact .inl ((store_resume _ _ _).trans (Services.store_answer _ _))
  | begin hp hs =>
    unfold beginSegment
    split <;> exact .inl rfl
  | commit hp => exact .inl (Services.store_answer _ _)
  | join hp => exact .inl (Services.store_run _ _)
  | finish hp => exact .inl (store_resumeEnding _ _ _)
  | conclude hp => exact .inl ((store_resumeEnding _ _ _).trans (Services.store_answer _ _))
  | _ => exact .inl rfl

/-- Everything that is stored was put. -/
theorem Step.stored {p : Resource → Prop} (h : x.Step rules y) (hp : ∀ r, rules.puts r → p r)
    (hx : ∀ r ∈ x.store.resources, p r) : ∀ r ∈ y.store.resources, p r := by
  rcases h.store with hstore | ⟨registry, hc, hstore⟩
  · exact hstore ▸ hx
  · rw [hstore]
    intro r hr
    cases hc with
    | put hputs hroom =>
      obtain ⟨e, he, rfl⟩ := List.mem_map.1 hr
      rcases Assoc.mem_of_mem_insert he with rfl | he
      · exact hp _ hputs
      · exact hx _ (List.mem_map_of_mem he)
    | remove hremoves hroom =>
      unfold Registry.remove at hr
      split at hr
      · exact hx r hr
      · obtain ⟨e, he, rfl⟩ := List.mem_map.1 hr
        exact hx _ (List.mem_map_of_mem ((Assoc.erase_sublist _ _).subset he))

theorem stored_of_run {p : Resource → Prop} (h : x.Run rules y) (hp : ∀ r, rules.puts r → p r)
    (hx : ∀ r ∈ x.store.resources, p r) : ∀ r ∈ y.store.resources, p r := by
  induction h with
  | refl => exact hx
  | tail _ hstep ih => exact hstep.stored hp ih

end System

end StageRelay
