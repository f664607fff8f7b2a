import StageRelay.Pipeline.Clock
import StageRelay.Settings.Load

/-!
# The command line

Which settings a run uses, and what a run that starts from a seed does to a directory of files.
-/

namespace StageRelay

/-- What the command line asks for. -/
inductive Command where
  | run (settings? : Option String)
  | help
  | misuse (argument : String)
deriving DecidableEq, Repr

namespace Command

/-- The text of the help. -/
def helpText : String :=
  "Reconcile gateway resources into per-stage configuration\n\n" ++
  "Usage: gateway-operator [OPTIONS]\n\n" ++
  "Options:\n" ++
  "  -c, --config <CONFIG>  Path to the TOML configuration file\n" ++
  "  -h, --help             Print help\n"

/-- The command that arguments make, after a path of settings was given or not. -/
def read (settings? : Option String) : List String → Command
  | [] => .run settings?
  | "-h" :: _ => .help
  | "--help" :: _ => .help
  | "-c" :: path :: rest => readOnce settings? path rest
  | "--config" :: path :: rest => readOnce settings? path rest
  | argument :: rest =>
    match Text.strip? "--config=".toList argument.toList with
    | some path => readOnce settings? (String.ofList path) rest
    | none => .misuse argument
where
  /-- Takes a path, of which only one may be given. -/
  readOnce (settings? : Option String) (path : String) (rest : List String) : Command :=
    match settings? with
    | none => read (some path) rest
    | some _ => .misuse path

end Command

/-- What a deed does to a directory. What fails leaves the directory as it is. -/
def FileStore.after (s : FileStore) : Deed → FileStore
  | .sync gateway stage c => (s.sync gateway stage c).toOption.getD s
  | .flush _ => s.flush.2
  | .prune existing => (s.prune existing).toOption.getD s
  | .report _ _ => s

/-- The pipeline that settings describe, over the resources of a store. -/
def Pipeline.ofSettings (s : Settings) (store : Store) : Pipeline where
  services := { registry := { store }, strictNames := true, debouncer := .ofSettings s.agent }
  settings := s.agent
  segmentSize := s.commit.segmentSize
  agent := .start s.agent s.tls.perStage
  channel := { capacity := s.commit.channelCapacity }

/-- The deeds of a run up to the point at which it has nothing to do. -/
def Pipeline.firstDeeds (p : Pipeline) : List Deed :=
  p.start.settle.takeLog.1.1.map Prod.snd

end StageRelay
