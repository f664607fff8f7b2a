import StageRelay.Debounce
import StageRelay.Work.Basic

/-!
# Services

A registry, a publisher, a reporter and the stages that wait, on one clock. The first three can be
made to fail, and what was asked of the publisher and the reporter is logged with its time.
-/

namespace StageRelay

/-- What fails. -/
structure Faults where
  /-- The names of the kinds whose resources cannot be read; a star stands for every kind. -/
  get : List String := []
  list : List String := []
  stages : Bool := false
  /-- How many of the next watches cannot be opened. -/
  watches : Nat := 0
  flush : Bool := false
  prune : Bool := false
  /-- The keys of the stages that cannot be published. -/
  sync : List String := []
deriving DecidableEq, Repr

/-- Whether a kind is among names of kinds. -/
def Faults.covers (names : List String) (kind : Kind) : Bool :=
  names.contains "*" || names.contains kind.name

/-- What was done. -/
inductive Deed where
  | sync (gateway stage : String) (c : Configuration)
  | flush (ok : Bool)
  | prune (existing : List String)
  | report (stage : Stage) (status : ReleaseStatus)
deriving Repr

/-- The services and their clock, in milliseconds. -/
structure Services where
  now : Nat := 0
  registry : Registry := {}
  faults : Faults := {}
  /-- Whether only stages that could be stored as files are published. -/
  strictNames : Bool := false
  /-- The keys of the stages whose conversion crashes. -/
  crashing : List String := []
  /-- The deeds since the log was last taken, newest first. -/
  deeds : List (Nat × Deed) := []
  measures : Measures := {}
  debouncer : Debouncer := { debounce := 0, force := 0 }
  /-- How often a watch was asked for. -/
  watchCalls : Nat := 0
deriving Repr

namespace Services

/-- The failure of a registry that was made to fail. -/
def backendFault : RegistryError := .backend "injected"

/-- Logs a deed. -/
def log (s : Services) (d : Deed) : Services :=
  { s with deeds := (s.now, d) :: s.deeds }

/-- Opens a watch and tells its number. -/
def watch (s : Services) : Except RegistryError Nat × Services :=
  let s := { s with watchCalls := s.watchCalls + 1 }
  if 0 < s.faults.watches then
    (.error backendFault, { s with faults := { s.faults with watches := s.faults.watches - 1 } })
  else
    let (w, registry) := s.registry.watch
    (.ok w, { s with registry })

/-- Whether a configuration can be published. -/
def accept (s : Services) (gateway stage : String) : Except SyncError Unit := do
  if s.faults.sync.contains (gateway ++ "/" ++ stage) then throw (.rejected "injected")
  if s.strictNames then
    FileName.check gateway
    FileName.check stage

/-- Publishes what was buffered. -/
def flush (s : Services) : Except SyncError Unit × Services :=
  if s.faults.flush then (.error (.rejected "injected flush failure"), s.log (.flush false))
  else (.ok (), s.log (.flush true))

/-- Withdraws the stages other than those with the given keys. -/
def prune (s : Services) (existing : List String) : Except SyncError Unit × Services :=
  if s.faults.prune then (.error (.rejected "injected prune failure"), s)
  else (.ok (), s.log (.prune existing))

/-- Makes the configuration of a stage. -/
def convert (s : Services) (stage : Stage) (resources : StageResources) : Converted :=
  if s.crashing.contains stage.key then .crashed
  else
    match resources.convert stage with
    | .ok c => .configuration c
    | .error e => .refused e

/-- Makes a stage wait. -/
def postpone (s : Services) (stage : Stage) : Services :=
  { s with debouncer := s.debouncer.update s.now stage }

/-- Takes out the stages that are due, and measures how many are left. -/
def drain (s : Services) : List Stage × Services :=
  let (due, debouncer) := s.debouncer.drain s.now
  (due, { s with debouncer, measures := s.measures.note (.waiting debouncer.size) })

/-- The answer to a call. -/
def answer {β : Type} (c : Call β) (s : Services) : β × Services :=
  match c with
  | .get kind key =>
    (if Faults.covers s.faults.get kind then .error backendFault else s.registry.get kind key, s)
  | .list kind stage =>
    (if Faults.covers s.faults.list kind then .error backendFault
      else .ok (s.registry.store.list kind stage), s)
  | .stages => (if s.faults.stages then .error backendFault else .ok s.registry.store.stages, s)
  | .watch => s.watch
  | .convert stage resources => (s.convert stage resources, s)
  | .sync gateway stage config =>
    match s.accept gateway stage with
    | .ok () => (.ok (), s.log (.sync gateway stage config))
    | .error e => (.error e, s)
  | .flush => s.flush
  | .prune existing => s.prune existing
  | .report stage status => ((), s.log (.report stage status))
  | .note m => ((), { s with measures := s.measures.note m })
  | .postpone stage => ((), s.postpone stage)
  | .drain => s.drain
  | .clock => (s.now, s)

/-- The services as a host. -/
def host : Host Services := ⟨answer⟩

/-- Takes the log and what was counted, oldest deeds first. -/
def takeLog (s : Services) : (List (Nat × Deed) × Measures) × Services :=
  ((s.deeds.reverse, s.measures), { s with deeds := [], measures := {} })

end Services

end StageRelay
